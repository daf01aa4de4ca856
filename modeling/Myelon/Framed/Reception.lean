/-
What the calls of a framed consumer hand over.

Each path is a receiver that goes from frame to frame. A log follows it if every frame that
is read takes the receiver on, and what this puts out is handed over before the next frame is
read. A log follows a path whatever the path of the call before.
-/

import Myelon.Framed.Application
import Myelon.Ring.Plain

namespace Framed

open Interleaving Ring Framing Streaming Delivery

/-! ### Slots that are held -/

section Held

variable {Value Output : Type}

inductive Held (log : List (Event Value Output)) (sequence : Int) (value : Value) :
    List (Event Value Output) → Prop where
  | read : Held log sequence value (log ++ [.read sequence value])
  | again (used : List (Event Value Output)) (seen : Value) (held : Held log sequence value used) :
      Held log sequence value (used ++ [.reread sequence seen])

theorem Held.position {log used : List (Event Value Output)} {sequence : Int} {value : Value}
    (held : Held log sequence value used) :
    Delivery.position used = ⟨(Delivery.position log).committed, sequence + 1⟩ := by
  induction held with
  | read => exact position_snoc _ _
  | again used seen _held ih => exact (position_snoc _ _).trans ih

variable {transport : Transport} {application : Application transport}
variable {policy : Policy application} {App : Type} {consumerId : ConsumerId}
variable {log : List (ConsumerEvent application.interface)} {app : App} {visible : Int}

theorem held_triple
    (rereads : ∀ log sequence value, policy.permits log (.reread sequence value))
    (event : EventRef application.interface)
    (placed : event.slot = transport.ring.index event.sequence)
    (ahead : (Delivery.position log).committed < event.sequence) :
    policy.ConsumerTriple consumerId
      (policy.Standing consumerId (log ++ [.read event.sequence event.value]) app visible)
      (Ring.Consumer.hold event)
      (fun _ self world => ∃ used, Held log event.sequence event.value used ∧
        policy.Standing consumerId used app visible self world) := by
  have moved : Delivery.position (log ++ [.read event.sequence event.value]) =
      ⟨(Delivery.position log).committed, event.sequence + 1⟩ := position_snoc _ _
  refine (Policy.hold_triple (Held log event.sequence event.value) event placed ?_ ?_ ?_
    Held.read).weaken ?_
  · rw [moved]
    exact ahead
  · rw [moved]
    exact Int.lt_succ _
  · intro used seen held
    exact ⟨rereads used _ seen, held.again used seen⟩
  · intro _ self world ⟨used, ⟨held, _same⟩, standing⟩
    exact ⟨used, held, standing⟩

end Held

variable {transport : Transport} {F : Type} [FramedTransportFrame F]
variable {publishPaths : List PublishPath} {receivePaths : List ReceivePath}
variable {consumerCounters : ConsumerCounters}

/-! ### Logs that follow a receiver -/

abbrev Log (F : Type) (publishPaths : List PublishPath) (receivePaths : List ReceivePath) :=
  List (ConsumerEvent (framed F publishPaths receivePaths))

/-- What the log of a consumer keeps while a receiver goes from frame to frame, with what
the receiver has put out and the consumer has still to hand over. A frame that is `early` may
be committed before that. -/
structure Follows {Stage : Type}
    (policy : Policy (framedApplication transport F publishPaths receivePaths consumerCounters))
    (receiver : Transducer Stage FrameMeta Message) (early : Stage → FrameMeta → Prop)
    (kept : Stage → List Message → Log F publishPaths receivePaths → Prop) : Prop where
  reads : ∀ {stage log}, kept stage [] log → ∀ sequence value,
    policy.permits log (.read sequence value)
  rereads : ∀ log sequence value, policy.permits log (.reread sequence value)
  takes : ∀ {stage log sequence value used frameMeta}, kept stage [] log →
    Held log sequence value used → FramedTransportFrame.frameMeta value = some frameMeta →
    kept (receiver.step stage frameMeta).1 (receiver.step stage frameMeta).2.toList used
  commits : ∀ {stage log}, kept stage [] log → ∀ sequence, policy.permits log (.commit sequence)
  commitsEarly : ∀ {stage log sequence value used}, kept stage [] log →
    Held log sequence value used →
    (∀ frameMeta, FramedTransportFrame.frameMeta value = some frameMeta →
      early stage frameMeta) → policy.permits used (.commit sequence)
  committed : ∀ {stage pending log}, kept stage pending log → ∀ sequence,
    kept stage pending (log ++ [.commit sequence])
  hands : ∀ {stage message log}, kept stage [message] log →
    policy.permits log (.handOver (.message message)) ∧
      kept stage [] (log ++ [.handOver (.message message)])
  ends : ∀ {stage log output}, kept stage [] log → (∀ message, output ≠ .message message) →
    policy.permits log (.handOver output) ∧ kept stage [] (log ++ [.handOver output])

variable {policy : Policy (framedApplication transport F publishPaths receivePaths
  consumerCounters)}

theorem follows_free (free : ∀ log event, policy.permits log event) {Stage : Type}
    (receiver : Transducer Stage FrameMeta Message) (early : Stage → FrameMeta → Prop) :
    Follows policy receiver early (fun _ _ _ => True) where
  reads := fun _ _ _ => free _ _
  rereads := fun _ _ _ => free _ _
  takes := fun _ _ _ => trivial
  commits := fun _ _ => free _ _
  commitsEarly := fun _ _ _ => free _ _
  committed := fun _ _ => trivial
  hands := fun _ => ⟨free _ _, trivial⟩
  ends := fun _ _ => ⟨free _ _, trivial⟩

/-! ### Frames -/

variable {consumerId : ConsumerId} {log : Log F publishPaths receivePaths}
variable {app : Receiving} {visible : Int}

theorem frameMeta_triple (value : F) :
    policy.ConsumerTriple consumerId (policy.Standing consumerId log app visible)
      (Consumer.frameMeta value)
      (fun frameMeta self world =>
        FramedTransportFrame.frameMeta value = some frameMeta ∧
          policy.Standing consumerId log app visible self world) := by
  unfold Consumer.frameMeta
  split
  · rename_i frameMeta shown
    exact Contract.Triple.pure frameMeta (fun _ _ held => ⟨shown, held⟩)
  · exact Policy.consumer_panic Policy.standing_stable

theorem handle_triple (message : Message)
    (permits : policy.permits log (.handOver (.message message))) :
    policy.ConsumerTriple consumerId (policy.Standing consumerId log app visible)
      (handle message)
      (fun _ => policy.Standing consumerId (log ++ [.handOver (.message message)]) app
        visible) := by
  apply Contract.Triple.bind Policy.current_triple
  intro consumer
  apply Contract.Triple.perform
  intro self world before ⟨same, standing⟩ relied _holds _met
  subst same
  have stands := Policy.standing_stable self world before relied standing
  have events := stands.here.events
  refine ⟨⟨stands.here.named, ?_⟩, ?_⟩
  · rw [events]
    exact permits
  · intro oracle result after performed
    cases performed
    have same : Delivery.position (log ++ [.handOver (.message message)]) =
        Delivery.position log := position_snoc _ _
    refine ⟨⟨stands.here.named, ?_, stands.here.attached, stands.here.initialised, ?_⟩,
      stands.app, stands.visible⟩
    · rw [same]
      exact stands.here.lastProcessedSequence
    · simp only [World.record, stands.here.named, Function.update_self, events]

theorem buffer_triple :
    policy.ConsumerTriple consumerId (policy.Standing consumerId log app visible)
      Consumer.buffer
      (fun reassemblyBuf self world => reassemblyBuf = app.reassemblyBuf ∧
        policy.Standing consumerId log app visible self world) := by
  apply Contract.Triple.bind Contract.Triple.get
  intro self
  apply Contract.Triple.pure
  intro now world ⟨same, standing⟩
  subst same
  exact ⟨congrArg Receiving.reassemblyBuf standing.app, standing⟩

theorem setBuffer_triple (reassemblyBuf : ReassemblyBuffer) :
    policy.ConsumerTriple consumerId (policy.Standing consumerId log app visible)
      (Consumer.setBuffer reassemblyBuf)
      (fun _ => policy.Standing consumerId log { app with reassemblyBuf } visible) := by
  apply Contract.Triple.update
  intro self world standing
  constructor
  · exact standing.here
  · change { self.2 with reassemblyBuf } = { app with reassemblyBuf }
    rw [standing.app]
  · exact standing.visible

theorem withFrame_triple {α : Type}
    {event : EventRef (framed F publishPaths receivePaths)}
    {useFrame : FrameMeta → ConsumerProcess (framed F publishPaths receivePaths) Receiving α}
    {post : α → Consumer × Receiving → World (framed F publishPaths receivePaths) → Prop}
    (rereads : ∀ log sequence value, policy.permits log (.reread sequence value))
    (placed : event.slot = transport.ring.index event.sequence)
    (ahead : (Delivery.position log).committed < event.sequence)
    (uses : ∀ frame used, FramedTransportFrame.frameMeta event.value = some frame →
      Held log event.sequence event.value used →
      policy.ConsumerTriple consumerId (policy.Standing consumerId used app visible)
        (useFrame frame) post) :
    policy.ConsumerTriple consumerId
      (policy.Standing consumerId (log ++ [.read event.sequence event.value]) app visible)
      (do
        Ring.Consumer.hold event
        let frame ← Consumer.frameMeta event.value
        useFrame frame) post := by
  apply Contract.Triple.bind (held_triple rereads event placed ahead)
  intro _
  apply Contract.Triple.exists
  intro used
  apply Contract.Triple.given (Held log event.sequence event.value used)
    (fun _ _ held => held.1)
  intro held
  apply Contract.Triple.bind
    ((frameMeta_triple event.value).strengthen (fun _ _ standing => standing.2))
  intro frame
  apply Contract.Triple.given (FramedTransportFrame.frameMeta event.value = some frame)
    (fun _ _ held => held.1)
  intro shown
  exact (uses frame used shown held).strengthen (fun _ _ held => held.2)

/-! ### One message, copied -/

section Owned

variable {kept : Option PartialMessage → List Message → Log F publishPaths receivePaths → Prop}
variable (follows : Follows policy ownedReceiver (fun _ _ => True) kept)

include follows

theorem nextFrame_triple (stage : Option PartialMessage) :
    policy.ConsumerTriple consumerId
      (policy.Rested consumerId (fun log (_ : Receiving) => kept stage [] log))
      (Consumer.nextFrame transport)
      (fun frame => policy.Rested consumerId (fun log _ =>
        kept (ownedReceiver.step stage frame).1 (ownedReceiver.step stage frame).2.toList
          log)) := by
  apply Policy.rested_triple
  intro log app visible keeps idle
  have commits : ∀ sequence value, policy.permits (log ++ [.read sequence value])
      (.commit sequence) :=
    fun sequence value => follows.commitsEarly keeps Held.read (fun _ _ => trivial)
  apply Contract.Triple.bind (Policy.consumeNext_triple idle (follows.reads keeps) commits)
  intro event
  apply (frameMeta_triple event.2).conseq (fun _ _ held => held.2)
  intro frame self world ⟨shown, standing⟩
  have held : Held log event.1 event.2 (log ++ [.read event.1 event.2]) := Held.read
  have taken := follows.takes keeps held shown
  exact ⟨_, app, event.1, follows.committed taken event.1, Policy.idle_consumed log _ _, standing⟩

theorem recvMessageBlockingOwned_triple :
    policy.ConsumerTriple consumerId
      (policy.Rested consumerId (fun log (_ : Receiving) => kept none [] log))
      (Consumer.recvMessageBlockingOwned transport)
      (fun message => policy.Rested consumerId (fun log _ => kept none [message] log)) := by
  apply Contract.Triple.bind (nextFrame_triple follows none)
  intro first
  cases received : recvFirst first with
  | inr whole =>
      have step : ownedReceiver.step none first = (none, some (Framing.handed whole)) := by
        simp [ownedReceiver, received]
      rw [step]
      exact Contract.Triple.pure _ (fun _ _ held => held)
  | inl pending =>
      have step : ownedReceiver.step none first = (some pending, none) := by
        simp [ownedReceiver, received]
      rw [step]
      apply Contract.Triple.repeat' (fun pending => policy.Rested consumerId
        (fun log (_ : Receiving) => kept (some pending) [] log))
      intro pending
      apply Contract.Triple.bind (nextFrame_triple follows (some pending))
      intro frame
      cases received : recvRest pending frame with
      | inr whole =>
          have step : ownedReceiver.step (some pending) frame =
              (none, some (Framing.handed whole)) := by
            simp [ownedReceiver, received]
          rw [step]
          exact Contract.Triple.pure _ (fun _ _ held => held)
      | inl later =>
          have step : ownedReceiver.step (some pending) frame = (some later, none) := by
            simp [ownedReceiver, received]
          rw [step]
          exact Contract.Triple.pure _ (fun _ _ held => held)

theorem serveOwned_triple :
    policy.ConsumerTriple consumerId
      (policy.Rested consumerId (fun log (_ : Receiving) => kept none [] log))
      (.message <$> Consumer.recvMessageBlockingOwned transport)
      (fun output => policy.Rested consumerId (fun log _ =>
        policy.permits log (.handOver output) ∧ kept none [] (log ++ [.handOver output]))) := by
  apply Contract.Triple.map
  apply (recvMessageBlockingOwned_triple follows).weaken
  intro message self world ⟨log, app, visible, keeps, idle, standing⟩
  exact ⟨log, app, visible, follows.hands keeps, idle, standing⟩

end Owned

/-! ### One message, lent -/

/-- The last frame of a message whose other frames were not read is committed before what was
put out is handed over. -/
def lentLate (stage : ReassemblyBuffer × Option ReceivedMessageMeta) (frame : FrameMeta) :
    Prop :=
  stage.2 = none ∧ isSingleFrame frame.flags = false ∧ isLastFrame frame.flags = true

section Leased

variable {kept : ReassemblyBuffer × Option ReceivedMessageMeta → List Message →
  Log F publishPaths receivePaths → Prop}
variable (follows : Follows policy leasedReceiver lentLate kept)

def FirstKept
    (kept : ReassemblyBuffer × Option ReceivedMessageMeta → List Message →
      Log F publishPaths receivePaths → Prop) (lease : Consumer.FirstLease)
    (log : Log F publishPaths receivePaths) (app : Receiving) : Prop :=
  match lease with
  | .handled => kept (app.reassemblyBuf, none) [] log
  | .last messageMeta => kept (app.reassemblyBuf, none)
      [{ kind := messageMeta.kind, payload := app.reassemblyBuf.bytes }] log
  | .more messageMeta => kept (app.reassemblyBuf, some messageMeta) [] log

def NextKept
    (kept : ReassemblyBuffer × Option ReceivedMessageMeta → List Message →
      Log F publishPaths receivePaths → Prop) (messageMeta : ReceivedMessageMeta)
    (round : Unit ⊕ Unit) (log : Log F publishPaths receivePaths) (app : Receiving) : Prop :=
  match round with
  | .inl () => kept (app.reassemblyBuf, some messageMeta) [] log
  | .inr () => kept (app.reassemblyBuf, none) [] log

include follows

theorem leaseFirstFrame_triple {sequence : Int}
    {event : EventRef (framed F publishPaths receivePaths)}
    (keeps : kept (app.reassemblyBuf, none) [] log)
    (next : sequence = (Delivery.position log).committed + 1) (same : event.sequence = sequence)
    (placed : event.slot = transport.ring.index sequence) :
    policy.ConsumerTriple consumerId
      (policy.Standing consumerId (log ++ [.read sequence event.value]) app sequence)
      (Consumer.leaseFirstFrame handle event)
      (policy.Used consumerId log sequence (FirstKept kept)) := by
  subst same
  apply withFrame_triple follows.rereads placed (by omega)
  intro frame used shown held
  have taken := follows.takes keeps held shown
  have moved := held.position
  cases single : isSingleFrame frame.flags with
  | true =>
      have step : leasedReceiver.step (app.reassemblyBuf, none) frame =
          ((app.reassemblyBuf, none), some { kind := frame.kind, payload := frame.data }) := by
        simp [leasedReceiver, leaseFirst, single, Framing.handed]
      rw [step] at taken
      obtain ⟨permits, given⟩ := follows.hands taken
      apply Contract.Triple.bind (handle_triple _ permits)
      intro _
      apply Contract.Triple.pure
      intro self world standing
      exact ⟨_, app, standing, (position_snoc _ _).trans moved, follows.commits given _, given⟩
  | false =>
      apply Contract.Triple.bind buffer_triple
      intro reassemblyBuf
      apply Contract.Triple.given (reassemblyBuf = app.reassemblyBuf) (fun _ _ held => held.1)
      intro same
      subst same
      apply Contract.Triple.bind ((setBuffer_triple _).strengthen (fun _ _ held => held.2))
      intro _
      apply Contract.Triple.pure
      intro self world standing
      cases last : isLastFrame frame.flags with
      | true =>
          have step : leasedReceiver.step (app.reassemblyBuf, none) frame =
              ((app.reassemblyBuf.start frame.msgId frame.kind frame.data frame.len, none),
                some { kind := frame.kind, payload := (app.reassemblyBuf.start frame.msgId
                  frame.kind frame.data frame.len).bytes }) := by
            simp [leasedReceiver, leaseFirst, single, last, Framing.handed]
          rw [step] at taken
          refine ⟨used, _, standing, moved, ?_, taken⟩
          apply follows.commitsEarly keeps held
          intro other same
          cases shown.symm.trans same
          exact ⟨rfl, single, last⟩
      | false =>
          have step : leasedReceiver.step (app.reassemblyBuf, none) frame =
              ((app.reassemblyBuf.start frame.msgId frame.kind frame.data frame.len,
                some { kind := frame.kind, msgId := frame.msgId }), none) := by
            simp [leasedReceiver, leaseFirst, single, last]
          rw [step] at taken
          exact ⟨used, _, standing, moved, follows.commits taken _, taken⟩

theorem leaseNextFrame_triple {sequence : Int} {messageMeta : ReceivedMessageMeta}
    {event : EventRef (framed F publishPaths receivePaths)}
    (keeps : kept (app.reassemblyBuf, some messageMeta) [] log)
    (next : sequence = (Delivery.position log).committed + 1) (same : event.sequence = sequence)
    (placed : event.slot = transport.ring.index sequence) :
    policy.ConsumerTriple consumerId
      (policy.Standing consumerId (log ++ [.read sequence event.value]) app sequence)
      (Consumer.leaseNextFrame handle messageMeta event)
      (policy.Used consumerId log sequence (NextKept kept messageMeta)) := by
  subst same
  apply withFrame_triple follows.rereads placed (by omega)
  intro frame used shown held
  have taken := follows.takes keeps held shown
  have moved := held.position
  by_cases other : frame.msgId = messageMeta.msgId
  · rw [if_neg (not_not_intro other)]
    apply Contract.Triple.bind buffer_triple
    intro reassemblyBuf
    apply Contract.Triple.given (reassemblyBuf = app.reassemblyBuf) (fun _ _ held => held.1)
    intro same
    subst same
    apply Contract.Triple.bind ((setBuffer_triple _).strengthen (fun _ _ held => held.2))
    intro _
    cases last : isLastFrame frame.flags with
    | true =>
        have step : leasedReceiver.step (app.reassemblyBuf, some messageMeta) frame =
            ((app.reassemblyBuf.append frame.data, none),
              some { kind := messageMeta.kind
                     payload := (app.reassemblyBuf.append frame.data).bytes }) := by
          simp [leasedReceiver, leaseRest, other, last, Framing.handed]
        rw [step] at taken
        obtain ⟨permits, given⟩ := follows.hands taken
        apply Contract.Triple.bind (handle_triple _ permits)
        intro _
        apply Contract.Triple.pure
        intro self world standing
        exact ⟨_, _, standing, (position_snoc _ _).trans moved, follows.commits given _, given⟩
    | false =>
        have step : leasedReceiver.step (app.reassemblyBuf, some messageMeta) frame =
            ((app.reassemblyBuf.append frame.data, some messageMeta), none) := by
          simp [leasedReceiver, leaseRest, other, last]
        rw [step] at taken
        apply Contract.Triple.pure
        intro self world standing
        exact ⟨used, _, standing, moved, follows.commits taken _, taken⟩
  · have step : leasedReceiver.step (app.reassemblyBuf, some messageMeta) frame =
        ((app.reassemblyBuf, some messageMeta), none) := by
      simp [leasedReceiver, leaseRest, other]
    rw [step] at taken
    rw [if_pos other]
    apply Contract.Triple.pure
    intro self world standing
    exact ⟨used, app, standing, moved, follows.commits taken _, taken⟩

theorem recvMessageBlockingLeased_triple :
    policy.ConsumerTriple consumerId
      (policy.Rested consumerId (fun log (app : Receiving) =>
        kept (app.reassemblyBuf, none) [] log))
      (Consumer.recvMessageBlockingLeased handle transport)
      (fun _ => policy.Rested consumerId (fun log app =>
        kept (app.reassemblyBuf, none) [] log)) := by
  apply Contract.Triple.through (fun lease => policy.Rested consumerId (FirstKept kept lease))
  · apply Policy.rested_triple
    intro log app visible keeps idle
    apply (Policy.consumeNextLeased_triple idle (follows.reads keeps)
      (fun sequence event => leaseFirstFrame_triple follows keeps)).weaken
    intro lease self world ⟨used, app, standing, read, done⟩
    refine ⟨_, app, _, ?_, Policy.idle_committed used _ read, standing⟩
    cases lease with
    | handled => exact follows.committed done _
    | last messageMeta => exact follows.committed done _
    | more messageMeta => exact follows.committed done _
  · intro lease
    cases lease with
    | handled => exact Contract.Triple.pure _ (fun _ _ held => held)
    | last messageMeta =>
        apply Policy.rested_triple
        intro log app visible keeps idle
        apply Contract.Triple.bind buffer_triple
        intro reassemblyBuf
        apply Contract.Triple.given (reassemblyBuf = app.reassemblyBuf) (fun _ _ held => held.1)
        intro same
        subst same
        obtain ⟨permits, given⟩ := follows.hands keeps
        apply (handle_triple _ permits).conseq (fun _ _ held => held.2)
        intro _ self world standing
        exact ⟨_, app, visible, given, (position_snoc log _).symm ▸ idle, standing⟩
    | more messageMeta =>
        apply Contract.Triple.repeat' (fun _ => policy.Rested consumerId
          (fun log (app : Receiving) => kept (app.reassemblyBuf, some messageMeta) [] log))
        intro round
        apply Policy.rested_triple
        intro log app visible keeps idle
        apply (Policy.consumeNextLeased_triple idle (follows.reads keeps)
          (fun sequence event => leaseNextFrame_triple follows keeps)).weaken
        intro round self world ⟨used, app, standing, read, done⟩
        cases round with
        | inl unfinished =>
            exact ⟨_, app, _, follows.committed done _, Policy.idle_committed used _ read,
              standing⟩
        | inr ended =>
            exact ⟨_, app, _, follows.committed done _, Policy.idle_committed used _ read,
              standing⟩

theorem serveLeased_triple :
    policy.ConsumerTriple consumerId
      (policy.Rested consumerId (fun log (app : Receiving) =>
        kept (app.reassemblyBuf, none) [] log))
      (do
        Consumer.recvMessageBlockingLeased handle transport
        pure Output.returned)
      (fun output => policy.Rested consumerId (fun log app =>
        policy.permits log (.handOver output) ∧
          kept (app.reassemblyBuf, none) [] (log ++ [.handOver output]))) := by
  apply Contract.Triple.bind (recvMessageBlockingLeased_triple follows)
  intro _
  apply Contract.Triple.pure
  intro self world ⟨log, app, visible, keeps, idle, standing⟩
  exact ⟨log, app, visible, follows.ends keeps (fun _ same => nomatch same), idle, standing⟩

end Leased

/-! ### All messages that are there -/

section Batches

theorem countDelivered_triple :
    policy.ConsumerTriple consumerId (policy.Standing consumerId log app visible)
      Consumer.countDelivered
      (fun _ => policy.Standing consumerId log { app with delivered := app.delivered + 1 }
        visible) := by
  apply Contract.Triple.update
  intro self world standing
  constructor
  · exact standing.here
  · change { self.2 with delivered := self.2.delivered + 1 } = _
    rw [standing.app]
  · exact standing.visible

variable {kept : ReassemblyBuffer → List Message → Log F publishPaths receivePaths → Prop}
variable (follows : Follows policy batchReceiver (fun _ _ => False) kept)

include follows

theorem receiveFrame_processes :
    policy.Processes consumerId (fun log (app : Receiving) => kept app.reassemblyBuf [] log)
      (fun event _ => Consumer.receiveFrame handle event) where
  reads := fun log app sequence value keeps => follows.reads keeps sequence value
  processed := by
    intro log app visible event _endOfBatch keeps ahead placed
    apply withFrame_triple follows.rereads placed ahead
    intro frame used shown held
    have taken := follows.takes keeps held shown
    have moved := held.position
    apply Contract.Triple.bind buffer_triple
    intro reassemblyBuf
    apply Contract.Triple.given (reassemblyBuf = app.reassemblyBuf) (fun _ _ held => held.1)
    intro same
    subst same
    change kept (processFrame app.reassemblyBuf frame).1
      (processFrame app.reassemblyBuf frame).2.toList used at taken
    rcases step : processFrame app.reassemblyBuf frame with ⟨buffer, none | message⟩
    · rw [step] at taken
      apply (setBuffer_triple buffer).conseq (fun _ _ held => held.2)
      intro _ self world standing
      exact ⟨used, _, taken, moved, standing⟩
    · rw [step] at taken
      obtain ⟨permits, given⟩ := follows.hands taken
      apply Contract.Triple.bind ((handle_triple _ permits).strengthen (fun _ _ held => held.2))
      intro _
      apply Contract.Triple.bind (setBuffer_triple buffer)
      intro _
      apply countDelivered_triple.weaken
      intro _ self world standing
      have still : Delivery.position (used ++ [.handOver (.message message)]) =
          Delivery.position used := position_snoc _ _
      exact ⟨_, _, given, still.trans moved, standing⟩
  commits := fun log app sequence keeps _read =>
    ⟨follows.commits keeps sequence, follows.committed keeps sequence⟩

theorem processAvailableMessages_triple :
    policy.ConsumerTriple consumerId
      (policy.Rested consumerId (fun log (app : Receiving) => kept app.reassemblyBuf [] log))
      (Consumer.processAvailableMessages handle transport)
      (fun _ => policy.Rested consumerId (fun log app => kept app.reassemblyBuf [] log)) := by
  apply Contract.Triple.through (fun _ => policy.Rested consumerId
    (fun log (app : Receiving) => kept app.reassemblyBuf [] log))
  · apply Contract.Triple.update
    intro self world ⟨log, app, visible, keeps, idle, standing⟩
    refine ⟨log, { app with delivered := 0 }, visible, keeps, idle, standing.here, ?_,
      standing.visible⟩
    rw [← standing.app]
  · intro _
    apply Contract.Triple.bind (Policy.processAvailable_triple (receiveFrame_processes follows))
    intro _
    apply Contract.Triple.bind Contract.Triple.get
    intro self
    exact Contract.Triple.pure _ (fun _ _ held => held.2)

theorem serveBatches_triple :
    policy.ConsumerTriple consumerId
      (policy.Rested consumerId (fun log (app : Receiving) => kept app.reassemblyBuf [] log))
      (.processed <$> Consumer.processAvailableMessages handle transport)
      (fun output => policy.Rested consumerId (fun log app =>
        policy.permits log (.handOver output) ∧
          kept app.reassemblyBuf [] (log ++ [.handOver output]))) := by
  apply Contract.Triple.map
  apply (processAvailableMessages_triple follows).weaken
  intro count self world ⟨log, app, visible, keeps, idle, standing⟩
  exact ⟨log, app, visible, follows.ends keeps (fun _ same => nomatch same), idle, standing⟩

end Batches

/-! ### Every path -/

theorem servesConsumer_free (free : ∀ log event, policy.permits log event)
    (returned : ∀ log, policy.returned log) : policy.ServesConsumer (fun _ _ => True) := by
  constructor
  · exact fun _ _ _ => trivial
  · exact fun log _ _ => returned log
  · intro consumerId ⟨path, _member⟩
    cases path with
    | recvMessageBlockingOwned =>
        exact serveOwned_triple (follows_free free ownedReceiver _)
    | recvMessageBlockingLeased =>
        exact serveLeased_triple (follows_free free leasedReceiver _)
    | processAvailableMessages =>
        exact serveBatches_triple (follows_free free batchReceiver _)

end Framed
