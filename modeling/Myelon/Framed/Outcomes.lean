/-
What framed messages become of.

A call that returns leaves the frames of its message behind, one that fails those in front of
the frame for which there was no room. The consumers get the messages of the calls that have
returned, where none of these comes behind a message that was abandoned after some frames.
-/

import Myelon.Framed.Publication
import Myelon.Framed.Tracking
import Myelon.Framing.Agreement
import Myelon.Ring.Shutdown

namespace Framed

open Interleaving Ring Framing Streaming Delivery

/-! ### Replies -/

def Reply.succeeded (reply : Reply) : Bool := reply.result.isOk

def published (replies : List (Nat × Reply)) : Nat := (replies.getLast?.map Prod.fst).getD 0

def okMessages (replies : List (Nat × Reply)) : List Message :=
  (replies.filter fun entry => entry.2.succeeded).map fun entry => entry.2.message

/-- No call returns `Ok` behind one that has failed after some of its frames. -/
def Unhindered : Nat → List (Nat × Reply) → Prop
  | _, [] => True
  | start, entry :: rest =>
      if entry.2.succeeded ∨ entry.1 = start then Unhindered entry.1 rest
      else ∀ later ∈ rest, later.2.succeeded = false

@[simp] theorem published_nil : published [] = 0 := rfl

@[simp] theorem published_snoc (replies : List (Nat × Reply)) (entry : Nat × Reply) :
    published (replies ++ [entry]) = entry.1 := by
  rw [published, List.getLast?_concat]
  rfl

/-! ### What one call leaves behind -/

section Values

variable {F : Type} [FramedTransportFrame F]

/-- The values are frames of the message, all of them if the call has returned `Ok` and fewer
if it has failed. -/
def LeftBehind (reply : Reply) (values : List F) : Prop :=
  Cuttable F reply.message ∧ ∃ msgId,
    let writes := frameWrites reply.message.payload reply.message.kind
      (FramedTransportFrame.payloadCapacity F) msgId
    if reply.succeeded then WrittenBy writes values
    else ∃ count < writes.length, WrittenBy (writes.take count) values

def Leaves (written : List F) (replies : List (Nat × Reply)) (reply : Reply) : Prop :=
  ∃ before values, before.length = published replies ∧ written = before ++ values ∧
    LeftBehind reply values

end Values

section Producer

variable {transport : Transport} {F : Type} [FramedTransportFrame F]
variable {publishPaths : List PublishPath} {receivePaths : List ReceivePath}
variable {consumerCounters : ConsumerCounters}

def leavingPolicy
    (policy : Policy (framedApplication transport F publishPaths receivePaths consumerCounters)) :
    Policy (framedApplication transport F publishPaths receivePaths consumerCounters) :=
  policy.answering Leaves (fun written replies => published replies = written.length)
    published_nil

variable {policy : Policy (framedApplication transport F publishPaths receivePaths
  consumerCounters)}

theorem leaving_servesProducer : (leavingPolicy policy).ServesProducer := by
  intro request written replies rested
  apply (serveProducer_triple request).weaken
  intro reply producer world ⟨same, cuttable, msgId, wrote⟩
  obtain ⟨message, result⟩ := reply
  cases same
  cases result with
  | ok done =>
      obtain ⟨values, writtenBy, resting⟩ := wrote
      refine ⟨values, resting, ⟨written, values, rested.symm, rfl, cuttable, msgId, ?_⟩,
        published_snoc _ _⟩
      exact writtenBy
  | error error =>
      obtain ⟨count, fewer, values, writtenBy, resting⟩ := wrote
      refine ⟨values, resting, ⟨written, values, rested.symm, rfl, cuttable, msgId, ?_⟩,
        published_snoc _ _⟩
      exact ⟨count, fewer, writtenBy⟩

end Producer

/-! ### The runs that are left behind -/

section Runs

variable {F : Type} [FramedTransportFrame F]

/-- The room of a frame. One without room holds an empty message like one with room. -/
abbrev frameBytes (F : Type) [FramedTransportFrame F] : Nat :=
  max 1 (FramedTransportFrame.payloadCapacity F)

theorem frameBytes_pos : 0 < frameBytes F := Nat.le_max_left _ _

theorem Cuttable.frameWrites {message : Message} (cuttable : Cuttable F message) (msgId : Nat) :
    frameWrites message.payload message.kind (FramedTransportFrame.payloadCapacity F) msgId =
      framesFrom (frameBytes F) message msgId 0 (frameCount (frameBytes F) message.payload) := by
  rw [← frameWrites_eq_framesFrom frameBytes_pos]
  rcases cuttable with empty | positive
  · simp [Framing.frameWrites, empty]
  · rw [frameBytes, Nat.max_eq_right positive]

theorem Cuttable.fits {message : Message} (cuttable : Cuttable F message) (msgId : Nat) :
    ∀ write ∈ Framing.frameWrites message.payload message.kind
        (FramedTransportFrame.payloadCapacity F) msgId,
      write.chunk.length ≤ FramedTransportFrame.payloadCapacity F := by
  rcases cuttable with empty | positive
  · intro write member
    simp only [Framing.frameWrites, empty, List.isEmpty_nil, if_true, List.mem_singleton] at member
    rw [member]
    exact Nat.zero_le _
  · exact frameWrites_fit positive message msgId

theorem LeftBehind.run (carries : Carries F) {reply : Reply} {values : List F}
    (left : LeftBehind reply values) :
    ∃ run : Run (frameBytes F), frameMetas values = some run.frames ∧
      run.message = reply.message ∧ (run.Complete ↔ reply.succeeded = true) := by
  obtain ⟨cuttable, msgId, wrote⟩ := left
  have fits := cuttable.fits msgId
  have writes := cuttable.frameWrites msgId
  simp only at wrote
  split at wrote
  · rename_i succeeded
    let run : Run (frameBytes F) :=
      { messageId := msgId
        message := reply.message
        emitted := frameCount (frameBytes F) reply.message.payload
        within := Nat.le_refl _ }
    refine ⟨run, ?_, rfl, fun _ => succeeded, fun _ => rfl⟩
    rw [wrote.shown carries fits, writes]
    rfl
  · rename_i failed
    obtain ⟨count, fewer, writtenBy⟩ := wrote
    rw [writes, framesFrom_length] at fewer
    let run : Run (frameBytes F) :=
      { messageId := msgId
        message := reply.message
        emitted := count
        within := Nat.le_of_lt fewer }
    have cut : ¬ run.Complete := Nat.ne_of_lt fewer
    refine ⟨run, ?_, rfl, fun complete => absurd complete cut,
      fun succeeded => absurd succeeded failed⟩
    rw [writtenBy.shown carries (fun write member => fits write (List.mem_of_mem_take member)),
      writes, framesFrom_take, Nat.min_eq_left (Nat.le_of_lt fewer)]
    rfl

inductive Matches {chunkSize : Nat} : Nat → List (Run chunkSize) → List (Nat × Reply) → Prop where
  | nil (start : Nat) : Matches start [] []
  | cons {start : Nat} {run : Run chunkSize} {runs : List (Run chunkSize)} {entry : Nat × Reply}
      {rest : List (Nat × Reply)} (message : run.message = entry.2.message)
      (complete : run.Complete ↔ entry.2.succeeded = true)
      (placed : entry.1 = start + run.emitted) (later : Matches entry.1 runs rest) :
      Matches start (run :: runs) (entry :: rest)

variable {chunkSize : Nat} {runs : List (Run chunkSize)} {replies : List (Nat × Reply)}

theorem Matches.snoc {start : Nat} (matched : Matches start runs replies)
    {run : Run chunkSize} {entry : Nat × Reply} (message : run.message = entry.2.message)
    (complete : run.Complete ↔ entry.2.succeeded = true)
    (placed : entry.1 = start + (stream runs).length + run.emitted) :
    Matches start (runs ++ [run]) (replies ++ [entry]) := by
  induction matched with
  | nil start => exact .cons message complete placed (.nil _)
  | @cons start first runs entry' rest firstMessage firstComplete firstPlaced _later ih =>
      refine .cons firstMessage firstComplete firstPlaced (ih ?_)
      rw [stream_cons, List.length_append, Run.frames_length] at placed
      omega

theorem Matches.completed {start : Nat} (matched : Matches start runs replies) :
    Framing.completed runs = okMessages replies := by
  induction matched with
  | nil start => rfl
  | @cons start run runs entry rest message complete _placed _later ih =>
      by_cases whole : run.Complete
      · have succeeded : entry.2.succeeded = true := complete.mp whole
        rw [completed_cons_complete whole, ih]
        simp [okMessages, succeeded, message]
      · have failed : entry.2.succeeded = false := Bool.eq_false_iff.mpr (mt complete.mpr whole)
        rw [completed_cons_cut whole, ih]
        simp [okMessages, failed]

theorem Matches.cut {start : Nat} (matched : Matches start runs replies)
    (failed : ∀ entry ∈ replies, entry.2.succeeded = false) :
    ∀ run ∈ runs, ¬ run.Complete := by
  induction matched with
  | nil start => exact fun _ impossible => absurd impossible List.not_mem_nil
  | @cons start run runs entry rest _message complete _placed _later ih =>
      intro other member whole
      rcases List.mem_cons.mp member with rfl | behind
      · have here := failed entry List.mem_cons_self
        rw [complete.mp whole] at here
        cases here
      · exact ih (fun later member => failed later (List.mem_cons_of_mem _ member)) other behind
          whole

theorem Matches.undisturbed {start : Nat} (matched : Matches start runs replies)
    (unhindered : Unhindered start replies) : Undisturbed runs := by
  induction matched with
  | nil start => trivial
  | @cons start run runs entry rest _message complete placed later ih =>
      have still : entry.1 = start ↔ run.emitted = 0 := by omega
      have either : run.Complete ∨ run.emitted = 0 ↔
          entry.2.succeeded = true ∨ entry.1 = start := or_congr complete still.symm
      unfold Undisturbed
      by_cases passes : run.Complete ∨ run.emitted = 0
      · rw [Unhindered, if_pos (either.mp passes)] at unhindered
        rw [if_pos passes]
        exact ih unhindered
      · rw [Unhindered, if_neg (fun met => passes (either.mpr met))] at unhindered
        rw [if_neg passes]
        exact later.cut unhindered

theorem runs_of_calls (carries : Carries F) {written : List F} {replies : List (Nat × Reply)}
    (calls : Throughout (fun before entry => entry.1 ≤ written.length ∧
      Leaves (written.take entry.1) before entry.2) replies) :
    ∃ runs : List (Run (frameBytes F)),
      frameMetas (written.take (published replies)) = some (stream runs) ∧
      (stream runs).length = published replies ∧ Matches 0 runs replies := by
  induction replies using List.reverseRecOn with
  | nil => exact ⟨[], rfl, rfl, .nil 0⟩
  | append_singleton replies entry ih =>
      obtain ⟨earlier, _within, before, values, length, split, left⟩ := throughout_snoc.mp calls
      obtain ⟨runs, shown, reached, matched⟩ := ih earlier
      obtain ⟨run, shows, message, complete⟩ := left.run carries
      have taken : written.take (published replies) = before := by
        have inside : published replies ≤ entry.1 := by
          have sizes := congrArg List.length split
          rw [List.length_take, List.length_append] at sizes
          omega
        rw [← Nat.min_eq_left inside, ← List.take_take, split, ← length, List.take_left]
      have count : (written.take entry.1).length = entry.1 := List.length_take_of_le _within
      have metas : frameMetas (written.take entry.1) = some (stream (runs ++ [run])) := by
        rw [split, stream_append, stream_cons, stream_nil, List.append_nil]
        exact frameMetas_append (taken ▸ shown) shows
      have sizes := frameMetas_length metas
      rw [stream_append, List.length_append] at sizes
      simp only [stream_cons, stream_nil, List.append_nil, Run.frames_length] at sizes
      refine ⟨runs ++ [run], ?_, ?_, matched.snoc message complete ?_⟩
      · rw [published_snoc]
        exact metas
      · rw [published_snoc, stream_append, List.length_append]
        simp only [stream_cons, stream_nil, List.append_nil, Run.frames_length]
        omega
      · omega

end Runs

/-! ### What the consumers get -/

variable {transport : Transport} {F : Type} [FramedTransportFrame F]
variable {publishPaths : List PublishPath} {receivePaths : List ReceivePath}
variable {consumerCounters : ConsumerCounters}

/-- The producer is between two calls. -/
def BetweenCalls
    (state : (framedApplication transport F publishPaths receivePaths consumerCounters).State) :
    Prop :=
  ∃ owner, state.AboutTo .producer (.producer owner) .nextProducerRequest

def CaughtUp
    (state : (framedApplication transport F publishPaths receivePaths consumerCounters).State)
    (consumerId : ConsumerId) : Prop :=
  (∃ consumer, state.AboutTo (.consumer consumerId) (.consumer consumer)
    (.nextConsumerRequest consumerId)) ∧
  state.world.consumerSequence consumerId = state.world.producerSequence

/-- The consumer gets the messages of the calls that have returned `Ok`, in order, and has got
all of them when it has consumed all that is published. -/
def GetsOk
    (state : (framedApplication transport F publishPaths receivePaths consumerCounters).State)
    (consumerId : ConsumerId) : Prop :=
  messages (state.world.events consumerId) <+: okMessages state.world.replies ∧
  (CaughtUp state consumerId →
    messages (state.world.events consumerId) = okMessages state.world.replies)

theorem frameMetas_take {frames : List F} {metas : List FrameMeta}
    (shown : frameMetas frames = some metas) (count : Nat) :
    frameMetas (frames.take count) = some (metas.take count) := by
  induction frames generalizing metas count with
  | nil =>
      cases shown
      cases count <;> rfl
  | cons frame rest ih =>
      simp only [frameMetas, List.mapM_cons, Option.pure_def, Option.bind_eq_bind,
        Option.bind_eq_some_iff, Option.some.injEq] at shown
      obtain ⟨first, shownFirst, others, shownOthers, rfl⟩ := shown
      cases count with
      | zero => rfl
      | succ count =>
          have later : frameMetas (rest.take count) = some (others.take count) :=
            ih shownOthers count
          unfold frameMetas at later ⊢
          rw [List.take_succ_cons, List.take_succ_cons, List.mapM_cons, shownFirst, later]
          rfl

theorem numbered_snd {Value : Type} (stream : List Value) :
    (numbered stream).map Prod.snd = stream := by
  simp [numbered, List.map_map, Function.comp_def]

section Tracking

variable {Stage : Type} {receiver : Transducer Stage FrameMeta Message} {start : Stage}
variable {early : Stage → FrameMeta → Prop} {passes : DirectoryPasses}
variable {reliable : transport.backend = .mmap → passes = .reliable}
variable {consumerIds : List ConsumerId}

variable (transport F publishPaths receivePaths consumerCounters passes reliable consumerIds) in
abbrev leavingKnown :
    Policy (framedApplication transport F publishPaths receivePaths consumerCounters) :=
  leavingPolicy (Policy.known _ passes reliable consumerIds (fun _ _ => True)
    (fun _ _ _ => True))

theorem tracking_servesProducer
    {policy : Policy (framedApplication transport F publishPaths receivePaths consumerCounters)} :
    (trackingPolicy receiver start (leavingPolicy policy) early).ServesProducer := by
  have serves : (leavingPolicy (trackingPolicy receiver start policy early)).ServesProducer :=
    leaving_servesProducer
  exact serves

theorem tracked_getsOk
    {state : (framedApplication transport F publishPaths receivePaths consumerCounters).State}
    (upheld : (trackingPolicy receiver start (leavingKnown transport F publishPaths receivePaths
      consumerCounters passes reliable consumerIds) early).contract.Upheld state)
    (carries : Carries F) {consumerId : ConsumerId} (member : consumerId ∈ consumerIds)
    (uninterrupted : Event.crash ∉ state.world.events consumerId)
    (between : BetweenCalls state)
    (gets : ∀ runs : List (Run (frameBytes F)), Matches 0 runs state.world.replies →
      receiver.outputs start (stream runs) = completed runs) :
    GetsOk state consumerId := by
  have holds := upheld.invariant
  obtain ⟨runs, shown, _length, matched⟩ := runs_of_calls carries holds.answered
  obtain ⟨owner, about⟩ := between
  obtain ⟨_owner, _same, settled, rested⟩ := upheld.guaranteed about trivial
  have all : published state.world.replies = state.world.written.length := rested
  rw [all, List.take_length] at shown
  have outputs := (gets runs matched).trans matched.completed
  have life := incarnation_uninterrupted uninterrupted
  have read : framesRead (state.world.events consumerId) =
      state.world.written.take (position (state.world.events consumerId)).next.toNat := by
    rw [framesRead, reads_eq_take (holds.ordered consumerId)
      (holds.faithful consumerId member) uninterrupted, numbered_take, numbered_snd]
  have shownRead : frameMetas (framesRead (incarnation (state.world.events consumerId))) =
      some ((stream runs).take (position (state.world.events consumerId)).next.toNat) := by
    rw [life, read]
    exact frameMetas_take shown _
  constructor
  · have handed := Tracked.messages_prefix (holds.permitted consumerId) shownRead
    rw [life] at handed
    rw [← outputs, ← List.take_append_drop
      (position (state.world.events consumerId)).next.toNat (stream runs),
      Transducer.outputs_append]
    exact handed.trans (List.prefix_append _ _)
  · intro caughtUp
    obtain ⟨⟨consumer, resting⟩, last⟩ := caughtUp
    obtain ⟨_named, ⟨_consumer, _same, _here, idle⟩, stage, metas, shownAll, _after, given⟩ :=
      upheld.guaranteed resting trivial
    have committed := (holds.positions consumerId).1
    have published := settled.published
    have next : (position (state.world.events consumerId)).next.toNat =
        (stream runs).length := by
      rw [idle, committed, last, published, ← frameMetas_length shown, Int.toNat_natCast]
    rw [next, List.take_length] at shownRead
    cases shownRead.symm.trans shownAll
    rw [life, List.append_nil] at given
    exact given.symm.trans outputs

end Tracking

/-! ### Every run -/

/-- Every call has left its frames behind those of the calls before, and nothing else is
written or published where the producer is between two calls. -/
structure CallsLeave
    (state : (framedApplication transport F publishPaths receivePaths consumerCounters).State) :
    Prop where
  calls : Throughout (fun before entry => entry.1 ≤ state.world.written.length ∧
    Leaves (state.world.written.take entry.1) before entry.2) state.world.replies
  between : BetweenCalls state →
    state.world.written.length = published state.world.replies ∧
      state.world.producerSequence + 1 = published state.world.replies

theorem leaving_callsLeave
    {policy : Policy (framedApplication transport F publishPaths receivePaths consumerCounters)}
    {state : (framedApplication transport F publishPaths receivePaths consumerCounters).State}
    (upheld : (leavingPolicy policy).contract.Upheld state)
    (free : ∀ producer action world, policy.condition producer action world) :
    CallsLeave state where
  calls := upheld.invariant.answered
  between := by
    intro ⟨owner, about⟩
    obtain ⟨_owner, _same, settled, rested⟩ := upheld.guaranteed about (free _ _ _)
    have all : published state.world.replies = state.world.written.length := rested
    rw [all]
    exact ⟨rfl, settled.published⟩

variable {passes : DirectoryPasses} {slots : Nat → F} {producer : Ring.Producer}
variable {attached joining : List ConsumerId}
variable {moves : List (Move Party (Oracle (framed F publishPaths receivePaths)))}
variable {state : (framedApplication transport F publishPaths receivePaths
  consumerCounters).State}

def Reaches (transport : Transport) (passes : DirectoryPasses)
    (consumerCounters : ConsumerCounters) (slots : Nat → F) (producer : Ring.Producer)
    (attached joining : List ConsumerId)
    (moves : List (Move Party (Oracle (framed F publishPaths receivePaths))))
    (after : (framedApplication transport F publishPaths receivePaths consumerCounters).State) :
    Prop :=
  ((framedApplication transport F publishPaths receivePaths consumerCounters).machine passes).run
    ((framedApplication transport F publishPaths receivePaths consumerCounters).start slots
      producer attached joining) moves = some after

theorem reaches_upheld
    {policy : Policy (framedApplication transport F publishPaths receivePaths consumerCounters)}
    {kept : Log F publishPaths receivePaths → Receiving → Prop}
    (servesProducer : policy.ServesProducer) (servesConsumer : policy.ServesConsumer kept)
    (fresh : producer.Fresh transport)
    (observes : ∀ consumerId, policy.observed consumerId →
      policy.gated producer.consumerBarrier consumerId)
    (known : producer.consumerBarrier.consumerCursors ⊆ attached)
    (joins : ∀ consumerId, policy.joins consumerId)
    (creates : ∀ consumerId ∉ attached, policy.creates consumerId)
    (free : ∀ producer action world, policy.condition producer action world)
    (accepts : ∀ producer action oracle world, policy.accepts producer action oracle world)
    (reached : Reaches transport policy.passes consumerCounters slots producer attached joining
      moves state) : policy.contract.Upheld state := by
  apply Policy.run_upheld servesProducer servesConsumer slots fresh observes known
    (fun consumerId _ => joins consumerId) (fun consumerId _ absent => creates consumerId absent)
    ?_ (policy.accepts_always accepts _ _) reached
  apply Machine.meets_always
  intro party self action world
  cases party with
  | consumer consumerId => trivial
  | producer =>
      cases self with
      | producer producer => exact free producer action world
      | consumer consumer => trivial
      | attaching attaching => trivial

theorem tracked_reaches {path : ReceivePath}
    {moves : List (Move Party (Oracle (framed F publishPaths [path])))}
    {state : (framedApplication transport F publishPaths [path] consumerCounters).State}
    (reliable : transport.backend = .mmap → passes = .reliable) (carries : Carries F)
    (fresh : producer.Fresh transport)
    (known : producer.consumerBarrier.consumerCursors ⊆ attached)
    (reached : Reaches transport passes consumerCounters slots producer attached joining moves
      state) {consumerId : ConsumerId}
    (member : consumerId ∈ producer.consumerBarrier.consumerCursors)
    (uninterrupted : Event.crash ∉ state.world.events consumerId)
    (between : BetweenCalls state)
    (unhindered : path ≠ .processAvailableMessages → Unhindered 0 state.world.replies) :
    GetsOk state consumerId := by
  have upheld : ∀ {Stage : Type} {receiver : Transducer Stage FrameMeta Message} {start : Stage}
      {early : Stage → FrameMeta → Prop} {kept : Log F publishPaths [path] → Receiving → Prop},
      (trackingPolicy receiver start (leavingKnown transport F publishPaths [path]
        consumerCounters passes reliable producer.consumerBarrier.consumerCursors)
        early).ServesConsumer kept →
      (trackingPolicy receiver start (leavingKnown transport F publishPaths [path]
        consumerCounters passes reliable producer.consumerBarrier.consumerCursors)
        early).contract.Upheld state := by
    intro Stage receiver start early kept serves
    exact reaches_upheld tracking_servesProducer serves fresh (fun _ member => ⟨member, member⟩)
      known (fun _ => trivial) (fun _ absent member => absent (known member))
      (fun _ _ _ => trivial) (fun _ _ _ _ => trivial) reached
  cases path with
  | recvMessageBlockingOwned =>
      apply tracked_getsOk (upheld (ownedTracking_serves _)) carries member uninterrupted between
      intro runs matched
      exact owned_agrees frameBytes_pos (matched.undisturbed (unhindered (by simp)))
  | recvMessageBlockingLeased =>
      apply tracked_getsOk (upheld (leasedTracking_serves _)) carries member uninterrupted
        between
      intro runs matched
      rw [leased_outputs]
      exact owned_agrees frameBytes_pos (matched.undisturbed (unhindered (by simp)))
  | processAvailableMessages =>
      apply tracked_getsOk (upheld (batchTracking_serves _)) carries member uninterrupted between
      intro runs _matched
      exact batch_stream frameBytes_pos .new runs

/-- A call that fails leaves the frames behind for which there was room. The batch path gets
the messages of the calls that return `Ok` all the same, the others as long as none of these
comes behind a message that was abandoned after some frames. -/
theorem managed_publications (fresh : producer.Fresh transport)
    (known : producer.consumerBarrier.consumerCursors ⊆ attached)
    (reached : Reaches transport passes consumerCounters slots producer attached joining moves
      state) :
    CallsLeave state ∧
    ∀ path, receivePaths = [path] → (transport.backend = .mmap → passes = .reliable) →
      Carries F → ∀ consumerId ∈ producer.consumerBarrier.consumerCursors,
      Event.crash ∉ state.world.events consumerId → BetweenCalls state →
      (path ≠ .processAvailableMessages → Unhindered 0 state.world.replies) →
      GetsOk state consumerId := by
  constructor
  · have upheld : (leavingPolicy (Policy.unobserved (framedApplication transport F publishPaths
        receivePaths consumerCounters) passes)).contract.Upheld state :=
      reaches_upheld leaving_servesProducer
        (servesConsumer_free (fun _ _ => trivial) (fun _ => trivial)) fresh
        (fun _ impossible => impossible.elim) known (fun _ => trivial) (fun _ _ => trivial)
        (fun _ _ _ => trivial) (fun _ _ _ _ => trivial) reached
    exact leaving_callsLeave upheld (fun _ _ _ => trivial)
  · intro path alone reliable carries consumerId member uninterrupted between unhindered
    subst alone
    exact tracked_reaches reliable carries fresh known reached member uninterrupted between
      unhindered

section Example

abbrev oneFrame : Application oneSlot :=
  framedApplication oneSlot (FixedFrame 2) [.publishManaged] [.processAvailableMessages]
    noCounters

def threeBytes : Message := { kind := 1, payload := [10, 11, 12] }

def asksFor (message : Message) : Oracle oneFrame.interface :=
  .producerRequest (⟨.publishManaged, List.mem_singleton.mpr rfl⟩, message)

abbrev emptySlots : Nat → FixedFrame 2 := fun _ => emptyFrame 2

abbrev oneFrameStart : oneFrame.State := oneFrame.start emptySlots supervised ["reader"] []

/-- The first frame fills the ring, and the consumer does not take it. -/
def failsAfterFirst : List (Move Party (Oracle oneFrame.interface)) :=
  [.silent, asksFor threeBytes, .takenMessageIds 0, .elapsed 0, .silent, .elapsed 0, .silent,
    .silent, .silent, .silent, .silent, .order ["reader"], .silent, .elapsed 10, .silent,
    .silent, .silent, .silent].map (Move.step .producer)

def results (state : oneFrame.State) : List (Nat × Except RequiredConsumerError Unit) :=
  state.world.replies.map fun entry => (entry.1, entry.2.result)

/-- The call has failed, and the cursor of the producer has moved. -/
theorem managed_publication_moves : ∃ state,
    Reaches oneSlot .mayFail noCounters emptySlots supervised ["reader"] [] failsAfterFirst
      state ∧
    results state = [(1, .error (.gracefulShutdownTriggered "reader" (-1) 10))] ∧
    oneFrameStart.world.producerSequence = -1 ∧ state.world.producerSequence = 0 := by
  have found : ((oneFrame.machine .mayFail).run oneFrameStart failsAfterFirst).any
      (fun state => decide (results state =
          [(1, .error (.gracefulShutdownTriggered "reader" (-1) 10))]) &&
        decide (state.world.producerSequence = 0)) = true := by
    decide +kernel
  obtain ⟨state, reached, failed⟩ := (Option.any_eq_true _ _).mp found
  rw [Bool.and_eq_true] at failed
  exact ⟨state, reached, of_decide_eq_true failed.1, rfl, of_decide_eq_true failed.2⟩

def betweenCalls (state : oneFrame.State) : Bool :=
  match state.program .producer with
  | .act (.producer _) .nextProducerRequest _ => true
  | _ => false

theorem managed_publications_fails : ∃ state,
    Reaches oneSlot .mayFail noCounters emptySlots supervised ["reader"] [] failsAfterFirst
      state ∧ CallsLeave state ∧ GetsOk state "reader" := by
  have found : ((oneFrame.machine .mayFail).run oneFrameStart failsAfterFirst).any
      (fun state => (state.world.events "reader").isEmpty && betweenCalls state) = true := by
    decide +kernel
  obtain ⟨state, reached, waits⟩ := (Option.any_eq_true _ _).mp found
  rw [Bool.and_eq_true] at waits
  have nothing : state.world.events "reader" = [] := List.isEmpty_iff.mp waits.1
  have uninterrupted : Event.crash ∉ state.world.events "reader" := by
    rw [nothing]
    exact List.not_mem_nil
  have between : BetweenCalls state := by
    have asks := waits.2
    unfold betweenCalls at asks
    split at asks
    · rename_i owner next placed
      exact ⟨owner, next, placed⟩
    · cases asks
  have fresh : supervised.Fresh oneSlot := ⟨rfl, rfl⟩
  obtain ⟨leaves, gets⟩ := managed_publications fresh (List.Subset.refl ["reader"]) reached
  refine ⟨state, reached, leaves, gets .processAvailableMessages rfl ?_
    (fixedFrame_carries (by decide)) "reader" List.mem_cons_self uninterrupted between ?_⟩
  · intro mapped
    cases mapped
  · intro other
    exact absurd rfl other

end Example

end Framed
