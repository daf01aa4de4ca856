/-
Consumers that hand over what their receiver puts out.

Since it was started last, a consumer has handed over everything its receiver makes of the
frames it has read, but for a message that was put out last. It reads no further frame before
that, and commits none unless the frame is one that may be committed early.
-/

import Myelon.Delivery.Calls
import Myelon.Framed.Reception
import Myelon.Framing.Tape

namespace Framed

open Interleaving Ring Framing Streaming Delivery

variable {transport : Transport} {F : Type} [FramedTransportFrame F]
variable {publishPaths : List PublishPath} {receivePaths : List ReceivePath}
variable {consumerCounters : ConsumerCounters}

/-! ### Frames and messages in a log -/

def Output.message? : Output → Option Message
  | .message whole => some whole
  | _ => none

def messages (log : Log F publishPaths receivePaths) : List Message :=
  (outputs log).filterMap Output.message?

def framesRead (log : Log F publishPaths receivePaths) : List F := (reads log).map Prod.snd

section Append

variable (log : Log F publishPaths receivePaths)

omit [FramedTransportFrame F] in
theorem messages_append (more : Log F publishPaths receivePaths) :
    messages (log ++ more) = messages log ++ messages more := by
  rw [messages, Delivery.outputs_append, List.filterMap_append]
  rfl

omit [FramedTransportFrame F] in
theorem framesRead_append (more : Log F publishPaths receivePaths) :
    framesRead (log ++ more) = framesRead log ++ framesRead more := by
  rw [framesRead, reads_append, List.map_append]
  rfl

end Append

theorem frameMetas_snoc {values : List F} {value : F} {metas : List FrameMeta}
    (shown : frameMetas (values ++ [value]) = some metas) :
    ∃ earlier last, metas = earlier ++ [last] ∧ frameMetas values = some earlier ∧
      FramedTransportFrame.frameMeta value = some last := by
  unfold frameMetas at *
  rw [List.mapM_append] at shown
  obtain ⟨earlier, before, later⟩ := Option.bind_eq_some_iff.mp shown
  obtain ⟨rest, one, same⟩ := Option.bind_eq_some_iff.mp later
  rw [List.mapM_cons, List.mapM_nil] at one
  obtain ⟨last, here, single⟩ := Option.bind_eq_some_iff.mp one
  cases single
  cases same
  exact ⟨earlier, last, rfl, before, here⟩

theorem frameMetas_more {values : List F} {value : F} {metas : List FrameMeta} {last : FrameMeta}
    (before : frameMetas values = some metas)
    (here : FramedTransportFrame.frameMeta value = some last) :
    frameMetas (values ++ [value]) = some (metas ++ [last]) := by
  apply frameMetas_append before
  unfold frameMetas
  rw [List.mapM_cons, here, List.mapM_nil]
  rfl

/-! ### Logs that track a receiver -/

variable {Stage : Type} (receiver : Transducer Stage FrameMeta Message) (start : Stage)

/-- What the receiver has made of the frames of this incarnation is handed over, but for
what is still pending. -/
def Tracks (stage : Stage) (pending : List Message) (log : Log F publishPaths receivePaths) :
    Prop :=
  ∃ metas, frameMetas (framesRead (incarnation log)) = some metas ∧
    receiver.after start metas = stage ∧
    receiver.outputs start metas = messages (incarnation log) ++ pending

def Gives (pending : List Message) (log : Log F publishPaths receivePaths) : Prop :=
  ∃ stage, Tracks receiver start stage pending log

/-- What an event may be. A frame that is committed early is the last that was read. -/
def Tracked (early : Stage → FrameMeta → Prop) (log : Log F publishPaths receivePaths) :
    ConsumerEvent (framed F publishPaths receivePaths) → Prop
  | .read _ _ => Gives receiver start [] log
  | .reread _ _ => True
  | .commit _ => ∀ metas last,
      frameMetas (framesRead (incarnation log)) = some (metas ++ [last]) →
      ¬ early (receiver.after start metas) last → Gives receiver start [] log
  | .handOver (.message message) => Gives receiver start [message] log
  | .handOver _ => Gives receiver start [] log
  | .crash => True

variable {receiver start} {stage : Stage} {pending : List Message}
variable {log : Log F publishPaths receivePaths}

theorem tracks_start (begins : log = [] ∨ ∃ before, log = before ++ [.crash]) :
    Tracks receiver start start [] log := by
  have nothing : incarnation log = [] := by
    rcases begins with rfl | ⟨before, rfl⟩
    · rfl
    · exact incarnation_crash before
  unfold Tracks
  rw [nothing]
  exact ⟨[], rfl, rfl, rfl⟩

theorem Tracks.passed {event : ConsumerEvent (framed F publishPaths receivePaths)}
    (tracks : Tracks receiver start stage pending log) (alive : event ≠ .crash)
    (unread : framesRead [event] = []) (silent : messages [event] = []) :
    Tracks receiver start stage pending (log ++ [event]) := by
  unfold Tracks
  rw [incarnation_snoc log alive, framesRead_append, messages_append, unread, silent,
    List.append_nil, List.append_nil]
  exact tracks

theorem Tracks.handed {message : Message}
    (tracks : Tracks receiver start stage [message] log) :
    Tracks receiver start stage [] (log ++ [.handOver (.message message)]) := by
  obtain ⟨metas, shown, after, outputs⟩ := tracks
  refine ⟨metas, ?_, after, ?_⟩
  · rw [incarnation_snoc log (by simp), framesRead_append]
    exact (congrArg frameMetas (List.append_nil _)).trans shown
  · rw [incarnation_snoc log (by simp), messages_append, List.append_nil]
    exact outputs

theorem Tracks.took {sequence : Int} {value : F} {frameMeta : FrameMeta}
    {used : Log F publishPaths receivePaths} (tracks : Tracks receiver start stage [] log)
    (held : Held log sequence value used)
    (shown : FramedTransportFrame.frameMeta value = some frameMeta) :
    Tracks receiver start (receiver.step stage frameMeta).1
      (receiver.step stage frameMeta).2.toList used := by
  induction held with
  | read =>
      obtain ⟨metas, before, rfl, outputs⟩ := tracks
      refine ⟨metas ++ [frameMeta], ?_, Transducer.after_snoc _ _ _, ?_⟩
      · rw [incarnation_snoc log (by simp), framesRead_append]
        exact frameMetas_more before shown
      · rw [incarnation_snoc log (by simp), messages_append, Transducer.outputs_snoc, outputs,
          List.append_nil]
        exact congrArg (· ++ _) (List.append_nil _).symm
  | again used seen _held ih => exact ih.passed (by simp) rfl rfl

omit [FramedTransportFrame F] in
theorem Held.framesRead {sequence : Int} {value : F} {used : Log F publishPaths receivePaths}
    (held : Held log sequence value used) :
    framesRead (incarnation used) = framesRead (incarnation log) ++ [value] := by
  induction held with
  | read =>
      rw [incarnation_snoc log (by simp), framesRead_append]
      rfl
  | again used seen _held ih =>
      rw [incarnation_snoc used (by simp), framesRead_append, ih]
      exact List.append_nil _

/-! ### The contract of such consumers -/

variable (receiver start)

def trackingPolicy
    (policy : Policy (framedApplication transport F publishPaths receivePaths consumerCounters))
    (early : Stage → FrameMeta → Prop) :
    Policy (framedApplication transport F publishPaths receivePaths consumerCounters) :=
  { policy with
    permits := Tracked receiver start early
    returned := Gives receiver start [] }

variable {receiver start} {early : Stage → FrameMeta → Prop}
variable {policy : Policy (framedApplication transport F publishPaths receivePaths
  consumerCounters)}

theorem tracking_follows :
    Follows (trackingPolicy receiver start policy early) receiver early
      (Tracks receiver start) where
  reads := fun tracks _ _ => ⟨_, tracks⟩
  rereads := fun _ _ _ => trivial
  takes := fun tracks held shown => tracks.took held shown
  commits := fun tracks _ _ _ _ _ => ⟨_, tracks⟩
  commitsEarly := by
    intro stage log sequence value used tracks held soon metas last shown late
    obtain ⟨earlier, before, rfl, _outputs⟩ := tracks
    rw [held.framesRead] at shown
    obtain ⟨others, frameMeta, same, shownBefore, here⟩ := frameMetas_snoc shown
    obtain ⟨rfl, single⟩ := List.append_inj' same rfl
    cases single
    cases before.symm.trans shownBefore
    exact absurd (soon last here) late
  committed := fun tracks _ => tracks.passed (by simp) rfl rfl
  hands := fun tracks => ⟨⟨_, tracks⟩, tracks.handed⟩
  ends := by
    intro stage log output tracks other
    cases output with
    | message message => exact absurd rfl (other message)
    | returned => exact ⟨⟨_, tracks⟩, tracks.passed (by simp) rfl rfl⟩
    | processed count => exact ⟨⟨_, tracks⟩, tracks.passed (by simp) rfl rfl⟩

/-! ### Each path keeps to its receiver -/

theorem ownedTracking_serves
    (policy : Policy (framedApplication transport F publishPaths [.recvMessageBlockingOwned]
      consumerCounters)) :
    (trackingPolicy ownedReceiver none policy (fun _ _ => True)).ServesConsumer
      (fun log _ => Tracks ownedReceiver none none [] log) where
  fresh := fun _ begins _ => tracks_start begins
  returned := fun _ _ tracks => ⟨_, tracks⟩
  serves := by
    intro consumerId ⟨path, member⟩
    cases List.mem_singleton.mp member
    exact serveOwned_triple tracking_follows

theorem leasedTracking_serves
    (policy : Policy (framedApplication transport F publishPaths [.recvMessageBlockingLeased]
      consumerCounters)) :
    (trackingPolicy leasedReceiver (.new, none) policy lentLate).ServesConsumer
      (fun log app => Tracks leasedReceiver (.new, none) (app.reassemblyBuf, none) [] log) where
  fresh := fun _ begins _ => tracks_start begins
  returned := fun _ _ tracks => ⟨_, tracks⟩
  serves := by
    intro consumerId ⟨path, member⟩
    cases List.mem_singleton.mp member
    exact serveLeased_triple tracking_follows

theorem batchTracking_serves
    (policy : Policy (framedApplication transport F publishPaths [.processAvailableMessages]
      consumerCounters)) :
    (trackingPolicy batchReceiver .new policy (fun _ _ => False)).ServesConsumer
      (fun log app => Tracks batchReceiver .new app.reassemblyBuf [] log) where
  fresh := fun _ begins _ => tracks_start begins
  returned := fun _ _ tracks => ⟨_, tracks⟩
  serves := by
    intro consumerId ⟨path, member⟩
    cases List.mem_singleton.mp member
    exact serveBatches_triple tracking_follows

/-! ### What was handed over -/

theorem Tracked.messages_prefix (tracked : Throughout (fun before event => event = .crash ∨
      Tracked receiver start early before event) log) {metas : List FrameMeta}
    (shown : frameMetas (framesRead (incarnation log)) = some metas) :
    messages (incarnation log) <+: receiver.outputs start metas := by
  induction log using List.reverseRecOn generalizing metas with
  | nil => exact List.nil_prefix
  | append_singleton log event ih =>
      obtain ⟨before, last⟩ := throughout_snoc.mp tracked
      have still : event ≠ .crash → framesRead [event] = [] → messages [event] = [] →
          messages (incarnation (log ++ [event])) <+: receiver.outputs start metas := by
        intro alive unread silent
        rw [incarnation_snoc log alive, framesRead_append, unread, List.append_nil] at shown
        rw [incarnation_snoc log alive, messages_append, silent, List.append_nil]
        exact ih before shown
      cases event with
      | crash =>
          rw [incarnation_crash]
          exact List.nil_prefix
      | reread sequence value => exact still (by simp) rfl rfl
      | commit sequence => exact still (by simp) rfl rfl
      | read sequence value =>
          rw [incarnation_snoc log (by simp), framesRead_append] at shown
          obtain ⟨earlier, frameMeta, rfl, shownBefore, _here⟩ := frameMetas_snoc shown
          rw [incarnation_snoc log (by simp), messages_append]
          have kept := (ih before shownBefore).trans
            (⟨_, (Transducer.outputs_snoc start earlier frameMeta).symm⟩ :
              receiver.outputs start earlier <+: _)
          exact (congrArg (· <+: _) (List.append_nil _)).mpr kept
      | handOver output =>
          cases output with
          | returned => exact still (by simp) rfl rfl
          | processed count => exact still (by simp) rfl rfl
          | message message =>
              obtain ⟨stage, others, shownBefore, _after, outputs⟩ :=
                last.resolve_left (by simp)
              rw [incarnation_snoc log (by simp), framesRead_append] at shown
              have same : frameMetas (framesRead (incarnation log)) = some metas :=
                (congrArg frameMetas (List.append_nil _)).symm.trans shown
              cases shownBefore.symm.trans same
              rw [incarnation_snoc log (by simp), messages_append, outputs]
              exact List.prefix_refl _

end Framed
