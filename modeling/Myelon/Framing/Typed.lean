/-
Typed receivers, and the messages that do not decode.

The owned and the leased receiver have committed every frame of a message when its error is
returned. The batch receiver panics in the middle of a batch, whose frames are committed
all at once behind the last of them.
-/

import Myelon.Framing.Agreement

namespace Framing

open Streaming

variable {Decoded Error : Type}

abbrev Decoder (Decoded Error : Type) := List UInt8 → Except Error Decoded

/-- What a receiver tells of a message. A failure is returned as an error, or it is the
panic of the batch receiver. -/
inductive Report (Decoded Error : Type) where
  | delivered (kind : UInt8) (message : Decoded)
  | failed (error : Error)
  deriving DecidableEq

def Report.of (decode : Decoder Decoded Error) (message : Message) : Report Decoded Error :=
  match decode message.payload with
  | .ok decoded => .delivered message.kind decoded
  | .error error => .failed error

/-- A consumer with the buffer that its user hands to each call. -/
structure TypedConsumer where
  /-- The frames whose consumption is committed. -/
  consumed : Nat
  reassemblyBuf : ReassemblyBuffer

namespace TypedConsumer

def new : TypedConsumer := { consumed := 0, reassemblyBuf := .new }

/-! ### One message after the other -/

/-- A call returns when a message is complete in the frames that are published by then.
Each frame is committed as it is copied, and the bytes are decoded after the last. -/
def recvOwned (decode : Decoder Decoded Error) (published : List FrameMeta)
    (consumer : TypedConsumer) : Option (Report Decoded Error × TypedConsumer) :=
  match ownedReceiver.next none (published.drop consumer.consumed) with
  | none => none
  | some (taken, _, message) =>
      some (.of decode message, { consumer with consumed := consumer.consumed + taken })

/-- The lease of the last frame is dropped, and the frame committed, when the handler has
returned, with an error or without. -/
def recvLeased (access : Decoder Decoded Error) (published : List FrameMeta)
    (consumer : TypedConsumer) : Option (Report Decoded Error × TypedConsumer) :=
  match leasedReceiver.next (consumer.reassemblyBuf, none)
      (published.drop consumer.consumed) with
  | none => none
  | some (taken, (reassemblyBuf, _), message) =>
      some (.of access message, { consumed := consumer.consumed + taken, reassemblyBuf })

/-! ### A batch of frames -/

/-- The callback of `process_available` at one frame. A panic leaves the buffer as it is
before the reset. -/
def processFrame (decode : Decoder Decoded Error) (buffer : ReassemblyBuffer)
    (frame : FrameMeta) : ReassemblyBuffer × Option (Report Decoded Error) :=
  if isSingleFrame frame.flags then
    (buffer, some (.of decode { kind := frame.kind, payload := frame.data }))
  else
    let buffer :=
      if isFirstFrame frame.flags then
        buffer.start frame.msgId frame.kind frame.data frame.len
      else if buffer.msgId = frame.msgId then buffer.append frame.data
      else buffer
    if isLastFrame frame.flags ∧ buffer.msgId = frame.msgId then
      match Report.of decode { kind := buffer.kind, payload := buffer.bytes } with
      | .failed error => (buffer, some (.failed error))
      | report => (buffer.reset, some report)
    else (buffer, none)

structure Batch (Decoded Error : Type) where
  reports : List (Report Decoded Error)
  reassemblyBuf : ReassemblyBuffer
  panicked : Bool

def Batch.after (report : Report Decoded Error) (batch : Batch Decoded Error) :
    Batch Decoded Error :=
  { batch with reports := report :: batch.reports }

def processFrames (decode : Decoder Decoded Error) (buffer : ReassemblyBuffer) :
    List FrameMeta → Batch Decoded Error
  | [] => { reports := [], reassemblyBuf := buffer, panicked := false }
  | frame :: rest =>
      match processFrame decode buffer frame with
      | (buffer, none) => processFrames decode buffer rest
      | (buffer, some (.failed error)) =>
          { reports := [.failed error], reassemblyBuf := buffer, panicked := true }
      | (buffer, some report) => (processFrames decode buffer rest).after report

/-- The frames up to the last one that a look has found, committed behind all of them. -/
def processSnapshotBatch (decode : Decoder Decoded Error) (frames : List FrameMeta)
    (consumer : TypedConsumer) (upper : Nat) : Batch Decoded Error × TypedConsumer :=
  let available := (frames.take upper).drop consumer.consumed
  let batch := processFrames decode consumer.reassemblyBuf available
  if batch.panicked then (batch, { consumer with reassemblyBuf := batch.reassemblyBuf })
  else
    (batch, { consumed := consumer.consumed + available.length
              reassemblyBuf := batch.reassemblyBuf })

/-- One call, with what each of its looks at the producer's cursor finds published. Over
files there is only one look. -/
def processAvailable (decode : Decoder Decoded Error) (frames : List FrameMeta) :
    List Nat → TypedConsumer → List (Report Decoded Error) × TypedConsumer
  | [], consumer => ([], consumer)
  | upper :: looks, consumer =>
      match processSnapshotBatch decode frames consumer upper with
      | (batch, consumer) =>
          if batch.panicked then (batch.reports, consumer)
          else
            let later := processAvailable decode frames looks consumer
            (batch.reports ++ later.1, later.2)

def processAvailableZeroCopy (access : Decoder Decoded Error) (frames : List FrameMeta)
    (looks : List Nat) (consumer : TypedConsumer) :
    List (Report Decoded Error) × TypedConsumer :=
  processAvailable access frames looks consumer

end TypedConsumer

/-! ### Calls of one kind -/

inductive ReceivePath where
  | recvOwned
  | recvLeased
  | processAvailable
  | processAvailableZeroCopy
  deriving DecidableEq

def ReceivePath.batches : ReceivePath → Bool
  | .recvOwned => false
  | .recvLeased => false
  | .processAvailable => true
  | .processAvailableZeroCopy => true

def publishedBy (looks : List Nat) : Nat := looks.foldr max 0

structure Session (Decoded Error : Type) where
  consumer : TypedConsumer
  reports : List (Report Decoded Error)

namespace Session

def new : Session Decoded Error := { consumer := .new, reports := [] }

def received (session : Session Decoded Error) :
    Option (Report Decoded Error × TypedConsumer) → Session Decoded Error
  | none => session
  | some (report, consumer) => { consumer, reports := session.reports ++ [report] }

def processed (session : Session Decoded Error)
    (result : List (Report Decoded Error) × TypedConsumer) : Session Decoded Error :=
  { consumer := result.2, reports := session.reports ++ result.1 }

def call (path : ReceivePath) (decode : Decoder Decoded Error) (frames : List FrameMeta)
    (session : Session Decoded Error) (looks : List Nat) : Session Decoded Error :=
  match path with
  | .recvOwned => session.received
      (session.consumer.recvOwned decode (frames.take (publishedBy looks)))
  | .recvLeased => session.received
      (session.consumer.recvLeased decode (frames.take (publishedBy looks)))
  | .processAvailable => session.processed
      (session.consumer.processAvailable decode frames looks)
  | .processAvailableZeroCopy => session.processed
      (session.consumer.processAvailableZeroCopy decode frames looks)

def run (path : ReceivePath) (decode : Decoder Decoded Error) (frames : List FrameMeta)
    (calls : List (List Nat)) : Session Decoded Error :=
  calls.foldl (call path decode frames) new

end Session

/-! ### Where a message ends -/

variable {chunkSize : Nat}

def framesOf (chunkSize : Nat) : List Message → Nat → Nat
  | _, 0 => 0
  | [], _ + 1 => 0
  | message :: rest, count + 1 =>
      frameCount chunkSize message.payload + framesOf chunkSize rest count

def completeIn (chunkSize : Nat) : List Message → Nat → Nat
  | [], _ => 0
  | message :: rest, frames =>
      if frameCount chunkSize message.payload ≤ frames then
        completeIn chunkSize rest (frames - frameCount chunkSize message.payload) + 1
      else 0

theorem completeIn_le (messages : List Message) (frames : Nat) :
    completeIn chunkSize messages frames ≤ messages.length := by
  induction messages generalizing frames with
  | nil => exact Nat.le_refl 0
  | cons message rest ih =>
      simp only [completeIn, List.length_cons]
      split
      · exact Nat.succ_le_succ (ih _)
      · exact Nat.zero_le _

theorem le_completeIn_iff {messages : List Message} {frames count : Nat}
    (within : count ≤ messages.length) :
    count ≤ completeIn chunkSize messages frames ↔ framesOf chunkSize messages count ≤ frames := by
  induction messages generalizing frames count with
  | nil =>
      obtain rfl : count = 0 := Nat.le_zero.mp within
      exact ⟨fun _ => Nat.zero_le _, fun _ => Nat.zero_le _⟩
  | cons message rest ih =>
      cases count with
      | zero => exact ⟨fun _ => Nat.zero_le _, fun _ => Nat.zero_le _⟩
      | succ count =>
          have later : count ≤ completeIn chunkSize rest
                (frames - frameCount chunkSize message.payload) ↔ _ :=
            ih (Nat.le_of_succ_le_succ within)
          simp only [completeIn, framesOf]
          split
          · rw [Nat.succ_le_succ_iff, later]
            omega
          · have positive := frameCount_pos chunkSize message.payload
            omega

theorem framesOf_succ {messages : List Message} {count : Nat} {message : Message}
    (found : messages[count]? = some message) :
    framesOf chunkSize messages (count + 1) =
      framesOf chunkSize messages count + frameCount chunkSize message.payload := by
  induction messages generalizing count with
  | nil => cases found
  | cons first rest ih =>
      cases count with
      | zero =>
          cases found
          simp only [framesOf]
          omega
      | succ count =>
          have later := ih found
          simp only [framesOf] at later ⊢
          omega

/-! ### What the frames of a run bring -/

def Run.cutAt (run : Run chunkSize) (emitted : Nat) (within : emitted ≤ run.emitted) :
    Run chunkSize :=
  { run with emitted, within := Nat.le_trans within run.within }

theorem frames_take (run : Run chunkSize) {emitted : Nat} (within : emitted ≤ run.emitted) :
    run.frames.take emitted = (run.cutAt emitted within).frames := by
  simp only [Run.frames, Run.framesAfter, shownFrom, Run.cutAt, Nat.sub_zero]
  rw [← List.map_take, framesFrom_take, Nat.min_eq_left within]

theorem batch_outputs_take (positive : 0 < chunkSize) (buffer : ReassemblyBuffer)
    (messageIds : Nat → Nat) (messages : List Message) (frames : Nat) :
    batchReceiver.outputs buffer
        ((stream (numberedRuns chunkSize messageIds messages)).take frames) =
      messages.take (completeIn chunkSize messages frames) := by
  induction messages generalizing buffer messageIds frames with
  | nil =>
      rw [numberedRuns, stream_nil, List.take_nil, List.take_nil]
      rfl
  | cons message rest ih =>
      let run : Run chunkSize :=
        { messageId := messageIds 0, message, emitted := frameCount chunkSize message.payload
          within := Nat.le_refl _ }
      have length : run.frames.length = frameCount chunkSize message.payload := run.frames_length
      rw [numberedRuns, stream_cons, List.take_append, length, Transducer.outputs_append, ih]
      simp only [completeIn]
      split
      · rename_i whole
        have complete : run.Complete := rfl
        rw [List.take_of_length_le (Nat.le_trans (Nat.le_of_eq length) whole),
          batch_complete positive buffer complete]
        rfl
      · rename_i short
        have within : frames ≤ run.emitted := Nat.le_of_not_le short
        have cut : ¬ (run.cutAt frames within).Complete :=
          fun complete => short (Nat.le_of_eq complete.symm)
        have empty : frames - frameCount chunkSize message.payload = 0 := by omega
        rw [frames_take run within, batch_cut buffer cut, empty]
        cases rest with
        | nil => rfl
        | cons next others =>
            have positive := frameCount_pos chunkSize next.payload
            rw [completeIn, if_neg (by omega)]
            rfl

theorem owned_early {run : Run chunkSize} (complete : run.Complete) {early : Nat}
    (short : early < run.emitted) :
    ownedReceiver.outputs none (run.cutAt early (Nat.le_of_lt short)).frames = [] := by
  have cut : ¬ (run.cutAt early (Nat.le_of_lt short)).Complete :=
    fun whole => Nat.ne_of_lt short (whole.trans complete.symm)
  rcases Nat.eq_zero_or_pos early with none | nonempty
  · subst none
    rfl
  · have collects : _ ∧ ownedReceiver.outputs none
        ((run.cutAt early (Nat.le_of_lt short)).framesAfter 0) = [] := owned_cut cut nonempty
    exact collects.2

theorem owned_silent {run : Run chunkSize} (complete : run.Complete) (rest : List FrameMeta)
    {frames : Nat} (short : frames < run.emitted) :
    ownedReceiver.outputs none ((run.frames ++ rest).take frames) = [] := by
  have within : frames ≤ run.emitted := Nat.le_of_lt short
  rw [List.take_append_of_le_length (by rw [run.frames_length]; exact within),
    frames_take run within]
  exact owned_early complete short

theorem owned_next (positive : 0 < chunkSize) {run : Run chunkSize} (complete : run.Complete)
    (rest : List FrameMeta) {frames : Nat} (whole : run.emitted ≤ frames) :
    ownedReceiver.next none ((run.frames ++ rest).take frames) =
      some (run.emitted, none, run.message) := by
  obtain ⟨early, last, split, quiet, length⟩ : ∃ early last, run.frames = early ++ [last] ∧
      ownedReceiver.outputs none early = [] ∧ run.emitted = early.length + 1 := by
    obtain ⟨before, emitted⟩ : ∃ before, run.emitted = before + 1 :=
      ⟨run.emitted - 1, by have positive := complete.emitted_pos; omega⟩
    have short : before < run.emitted := by omega
    refine ⟨(run.cutAt before (Nat.le_of_lt short)).frames,
      (frameAt chunkSize run.message run.messageId before).shown, ?_, owned_early complete short,
      ?_⟩
    · simp only [Run.frames, Run.framesAfter, Run.cutAt, Nat.sub_zero, emitted, shownFrom_snoc,
        Nat.zero_add]
    · rw [Run.frames_length]
      exact emitted
  have received : ownedReceiver.after none run.frames = none ∧
      ownedReceiver.outputs none run.frames =
        [{ run.message with payload := run.message.payload.drop (0 * chunkSize) }] :=
    owned_complete positive complete complete.emitted_pos
  rw [split, Transducer.after_snoc, Transducer.outputs_snoc, quiet, Nat.zero_mul,
    List.drop_zero, List.nil_append] at received
  obtain ⟨after, outputs⟩ := received
  have step : ownedReceiver.step (ownedReceiver.after none early) last =
      (none, some run.message) := by
    apply Prod.ext
    · exact after
    · cases out : (ownedReceiver.step (ownedReceiver.after none early) last).2 with
      | none =>
          rw [out] at outputs
          cases outputs
      | some message =>
          rw [out] at outputs
          exact congrArg some (List.singleton_inj.mp outputs)
  have found : ownedReceiver.next none (early ++ last :: rest.take (frames - run.emitted)) = _ :=
    Transducer.next_some quiet step
  rw [List.take_append, List.take_of_length_le (by rw [run.frames_length]; exact whole),
    run.frames_length, split, List.append_assoc, List.singleton_append, found, length]

theorem leased_next (positive : 0 < chunkSize) {run : Run chunkSize} (complete : run.Complete)
    (rest : List FrameMeta) {frames : Nat} (whole : run.emitted ≤ frames)
    (buffer : ReassemblyBuffer) :
    ∃ state, leasedReceiver.next (buffer, none) ((run.frames ++ rest).take frames) =
      some (run.emitted, state, run.message) := by
  have owned := owned_next positive complete rest whole
  have start : SameProgress (buffer, none) none := trivial
  obtain ⟨state, found, _same⟩ := Transducer.next_eq_of_related SameProgress
    (fun _ _ frame same => leased_step frame same) start owned
  exact ⟨state, found⟩

theorem leased_waits {items : List FrameMeta} (silent : ownedReceiver.outputs none items = [])
    (buffer : ReassemblyBuffer) : leasedReceiver.next (buffer, none) items = none := by
  apply Transducer.next_none
  rw [leased_outputs, silent]

theorem stream_drop (messageIds : Nat → Nat) (messages : List Message) {count : Nat}
    (within : count ≤ messages.length) :
    ∃ later, (stream (numberedRuns chunkSize messageIds messages)).drop
        (framesOf chunkSize messages count) =
      stream (numberedRuns chunkSize later (messages.drop count)) := by
  induction messages generalizing messageIds count with
  | nil =>
      obtain rfl : count = 0 := Nat.le_zero.mp within
      exact ⟨messageIds, rfl⟩
  | cons message rest ih =>
      cases count with
      | zero => exact ⟨messageIds, rfl⟩
      | succ count =>
          obtain ⟨later, left⟩ :=
            ih (fun index => messageIds (index + 1)) (Nat.le_of_succ_le_succ within)
          refine ⟨later, ?_⟩
          let run : Run chunkSize :=
            { messageId := messageIds 0, message, emitted := frameCount chunkSize message.payload
              within := Nat.le_refl _ }
          have length : run.frames.length = frameCount chunkSize message.payload :=
            run.frames_length
          rw [numberedRuns, stream_cons, framesOf, ← List.drop_drop, List.drop_left' length]
          exact left

theorem completeIn_mono (messages : List Message) {fewer more : Nat} (le : fewer ≤ more) :
    completeIn chunkSize messages fewer ≤ completeIn chunkSize messages more := by
  rw [le_completeIn_iff (completeIn_le messages fewer)]
  exact Nat.le_trans ((le_completeIn_iff (completeIn_le messages fewer)).mp (Nat.le_refl _)) le

/-! ### What isolation means -/

section Isolation

variable (decode : Decoder Decoded Error) (messages : List Message)

/-- A call reports the messages in their order and each of them once. After a failure the
consumer stands behind the message that failed, and a call goes on with the message behind
the last one that was reported, a batch call with all that are there. -/
structure Isolates (chunkSize : Nat) (path : ReceivePath) (looks : List Nat)
    (before after : Session Decoded Error) : Prop where
  inOrder : after.reports = (messages.take after.reports.length).map (Report.of decode)
  behind : ∀ error, Report.failed error ∈ after.reports.drop before.reports.length →
    after.consumer.consumed = framesOf chunkSize messages after.reports.length
  continues : before.reports.length < completeIn chunkSize messages (publishedBy looks) →
    before.reports.length < after.reports.length
  complete : path.batches = true →
    (∀ error, Report.failed error ∉ after.reports.drop before.reports.length) →
    completeIn chunkSize messages (publishedBy looks) ≤ after.reports.length

def Isolated (chunkSize : Nat) (path : ReceivePath) (frames : List FrameMeta)
    (calls : List (List Nat)) : Prop :=
  ∀ earlier looks later, calls = earlier ++ looks :: later →
    Isolates decode messages chunkSize path looks (Session.run path decode frames earlier)
      (Session.run path decode frames (earlier ++ [looks]))

def Decodes (chunkSize : Nat) (looks : List Nat) : Prop :=
  ∀ message ∈ messages.take (completeIn chunkSize messages (publishedBy looks)),
    ∃ decoded, decode message.payload = .ok decoded

end Isolation

/-! ### One message after the other -/

variable {decode : Decoder Decoded Error} {messages : List Message} {messageIds : Nat → Nat}

/-- The first messages have been reported, and the consumer stands behind them. -/
structure StandsBehind (chunkSize : Nat) (decode : Decoder Decoded Error)
    (messages : List Message) (count : Nat) (session : Session Decoded Error) : Prop where
  within : count ≤ messages.length
  consumed : session.consumer.consumed = framesOf chunkSize messages count
  reports : session.reports = (messages.take count).map (Report.of decode)

theorem StandsBehind.length {count : Nat} {session : Session Decoded Error}
    (stands : StandsBehind chunkSize decode messages count session) :
    session.reports.length = count := by
  rw [stands.reports, List.length_map, List.length_take, Nat.min_eq_left stands.within]

theorem StandsBehind.more {count : Nat} {session : Session Decoded Error}
    (stands : StandsBehind chunkSize decode messages count session) {message : Message}
    (found : messages[count]? = some message) (buffer : ReassemblyBuffer) :
    StandsBehind chunkSize decode messages (count + 1)
      { consumer :=
          { consumed := session.consumer.consumed + frameCount chunkSize message.payload
            reassemblyBuf := buffer }
        reports := session.reports ++ [Report.of decode message] } where
  within := (List.getElem?_eq_some_iff.mp found).1
  consumed := by
    rw [framesOf_succ found, ← stands.consumed]
  reports := by
    rw [List.take_add_one, found, List.map_append, ← stands.reports]
    rfl

theorem StandsBehind.receives (positive : 0 < chunkSize) {path : ReceivePath}
    (single : path.batches = false) {count : Nat} {session : Session Decoded Error}
    (stands : StandsBehind chunkSize decode messages count session) (looks : List Nat) :
    StandsBehind chunkSize decode messages
      (if count < completeIn chunkSize messages (publishedBy looks) then count + 1 else count)
      (session.call path decode (stream (numberedRuns chunkSize messageIds messages)) looks) := by
  obtain ⟨later, left⟩ : ∃ later,
      (stream (numberedRuns chunkSize messageIds messages)).drop
          (framesOf chunkSize messages count) =
        stream (numberedRuns chunkSize later (messages.drop count)) :=
    stream_drop messageIds messages stands.within
  have ahead : ((stream (numberedRuns chunkSize messageIds messages)).take
      (publishedBy looks)).drop session.consumer.consumed =
      (stream (numberedRuns chunkSize later (messages.drop count))).take
        (publishedBy looks - framesOf chunkSize messages count) := by
    rw [stands.consumed, List.drop_take, left]
  cases found : messages[count]? with
  | none =>
      have last := List.getElem?_eq_none_iff.mp found
      have bound : completeIn chunkSize messages (publishedBy looks) ≤ messages.length :=
        completeIn_le messages (publishedBy looks)
      rw [List.drop_eq_nil_of_le last, numberedRuns, stream_nil, List.take_nil] at ahead
      rw [if_neg (by omega)]
      have waits : session.call path decode (stream (numberedRuns chunkSize messageIds messages))
          looks = session := by
        cases path with
        | recvOwned => simp only [Session.call, TypedConsumer.recvOwned, ahead]; rfl
        | recvLeased => simp only [Session.call, TypedConsumer.recvLeased, ahead]; rfl
        | processAvailable => cases single
        | processAvailableZeroCopy => cases single
      rw [waits]
      exact stands
  | some message =>
      obtain ⟨here, same⟩ := List.getElem?_eq_some_iff.mp found
      let run : Run chunkSize :=
        { messageId := later 0, message, emitted := frameCount chunkSize message.payload
          within := Nat.le_refl _ }
      have complete : run.Complete := rfl
      rw [List.drop_eq_getElem_cons here, same, numberedRuns, stream_cons] at ahead
      have reach : count < completeIn chunkSize messages (publishedBy looks) ↔
          run.emitted ≤ publishedBy looks - framesOf chunkSize messages count := by
        have ends : framesOf chunkSize messages (count + 1) = _ := framesOf_succ found
        have positive := frameCount_pos chunkSize message.payload
        rw [Nat.lt_iff_add_one_le, le_completeIn_iff here, ends]
        change _ ↔ frameCount chunkSize message.payload ≤ _
        omega
      by_cases whole : run.emitted ≤ publishedBy looks - framesOf chunkSize messages count
      · rw [if_pos (reach.mpr whole)]
        cases path with
        | recvOwned =>
            have next := owned_next positive complete (stream (numberedRuns chunkSize
              (fun index => later (index + 1)) (messages.drop (count + 1)))) whole
            simp only [Session.call, TypedConsumer.recvOwned, ahead]
            rw [next]
            exact stands.more found _
        | recvLeased =>
            obtain ⟨⟨buffer, waiting⟩, next⟩ := leased_next positive complete
              (stream (numberedRuns chunkSize
              (fun index => later (index + 1))
                (messages.drop (count + 1)))) whole session.consumer.reassemblyBuf
            simp only [Session.call, TypedConsumer.recvLeased, ahead]
            rw [next]
            exact stands.more found buffer
        | processAvailable => cases single
        | processAvailableZeroCopy => cases single
      · rw [if_neg (fun more => whole (reach.mp more))]
        have silent := owned_silent complete (stream (numberedRuns chunkSize
          (fun index => later (index + 1)) (messages.drop (count + 1)))) (Nat.lt_of_not_le whole)
        cases path with
        | recvOwned =>
            simp only [Session.call, TypedConsumer.recvOwned, ahead]
            rw [Transducer.next_none silent]
            exact stands
        | recvLeased =>
            simp only [Session.call, TypedConsumer.recvLeased, ahead]
            rw [leased_waits silent]
            exact stands
        | processAvailable => cases single
        | processAvailableZeroCopy => cases single

/-! ### A batch of frames -/

namespace TypedConsumer

theorem processFrame_reports (decode : Decoder Decoded Error) (buffer : ReassemblyBuffer)
    (frame : FrameMeta) :
    (processFrame decode buffer frame).2 =
      (batchReceiver.step buffer frame).2.map (Report.of decode) := by
  simp only [processFrame, batchReceiver, Framing.processFrame]
  generalize (if isFirstFrame frame.flags = true then
    buffer.start frame.msgId frame.kind frame.data frame.len
    else if buffer.msgId = frame.msgId then buffer.append frame.data else buffer) = collected
  by_cases single : isSingleFrame frame.flags = true
  · rw [if_pos single, if_pos single]
    rfl
  · rw [if_neg single, if_neg single]
    by_cases last : isLastFrame frame.flags = true ∧ collected.msgId = frame.msgId
    · rw [if_pos last, if_pos last]
      cases reported : Report.of decode { kind := collected.kind, payload := collected.bytes } with
      | failed error => exact congrArg some reported.symm
      | delivered kind message => exact congrArg some reported.symm
    · rw [if_neg last, if_neg last]
      rfl

theorem processFrame_buffer (decode : Decoder Decoded Error) (buffer : ReassemblyBuffer)
    (frame : FrameMeta)
    (decodes : ∀ error, (processFrame decode buffer frame).2 ≠ some (.failed error)) :
    (processFrame decode buffer frame).1 = (batchReceiver.step buffer frame).1 := by
  revert decodes
  simp only [processFrame, batchReceiver, Framing.processFrame]
  generalize (if isFirstFrame frame.flags = true then
    buffer.start frame.msgId frame.kind frame.data frame.len
    else if buffer.msgId = frame.msgId then buffer.append frame.data else buffer) = collected
  intro decodes
  by_cases single : isSingleFrame frame.flags = true
  · rw [if_pos single, if_pos single]
  · rw [if_neg single] at decodes
    rw [if_neg single, if_neg single]
    by_cases last : isLastFrame frame.flags = true ∧ collected.msgId = frame.msgId
    · rw [if_pos last] at decodes
      rw [if_pos last, if_pos last]
      cases reported : Report.of decode { kind := collected.kind, payload := collected.bytes } with
      | failed error =>
          rw [reported] at decodes
          exact absurd rfl (decodes error)
      | delivered kind message => rfl
    · rw [if_neg last, if_neg last]

theorem of_failed {message : Message} {error : Error}
    (failed : Report.of decode message = .failed error) :
    ¬ ∃ decoded, decode message.payload = .ok decoded := by
  rintro ⟨decoded, decodes⟩
  rw [Report.of, decodes] at failed
  cases failed

theorem processFrames_through {buffer : ReassemblyBuffer} {frames : List FrameMeta}
    (decodes : ∀ message ∈ batchReceiver.outputs buffer frames,
      ∃ decoded, decode message.payload = .ok decoded) :
    processFrames decode buffer frames =
      { reports := (batchReceiver.outputs buffer frames).map (Report.of decode)
        reassemblyBuf := batchReceiver.after buffer frames
        panicked := false } := by
  induction frames generalizing buffer with
  | nil => rfl
  | cons frame rest ih =>
      rw [Transducer.outputs_cons] at decodes
      have later := ih (fun message member => decodes message (List.mem_append_right _ member))
      have reports := processFrame_reports decode buffer frame
      have leaves := processFrame_buffer decode buffer frame
      rcases processed : processFrame decode buffer frame with ⟨next, report⟩
      rw [processed] at reports leaves
      rw [processFrames, processed, Transducer.outputs_cons, Transducer.after_cons]
      cases handed : (batchReceiver.step buffer frame).2 with
      | none =>
          rw [handed] at reports
          cases (reports : report = none)
          rw [← leaves nofun] at later ⊢
          exact later
      | some message =>
          rw [handed] at reports decodes
          cases (reports : report = some (Report.of decode message))
          cases reported : Report.of decode message with
          | failed error =>
              exact absurd (decodes message List.mem_cons_self) (of_failed reported)
          | delivered kind decoded =>
              rw [reported] at leaves
              rw [← leaves nofun] at later ⊢
              change (processFrames decode next rest).after _ = _
              rw [later]
              simp only [Batch.after, Option.toList_some, List.singleton_append, List.map_cons,
                reported]

theorem processFrames_panics {buffer : ReassemblyBuffer} {frames : List FrameMeta}
    (fails : ¬ ∀ message ∈ batchReceiver.outputs buffer frames,
      ∃ decoded, decode message.payload = .ok decoded) :
    (processFrames decode buffer frames).panicked = true ∧
      ∃ error, .failed error ∈ (processFrames decode buffer frames).reports := by
  induction frames generalizing buffer with
  | nil => exact absurd (fun _ impossible => absurd impossible List.not_mem_nil) fails
  | cons frame rest ih =>
      have reports := processFrame_reports decode buffer frame
      have leaves := processFrame_buffer decode buffer frame
      rcases processed : processFrame decode buffer frame with ⟨next, report⟩
      rw [processed] at reports leaves
      rw [Transducer.outputs_cons] at fails
      rw [processFrames, processed]
      cases handed : (batchReceiver.step buffer frame).2 with
      | none =>
          rw [handed] at reports fails
          cases (reports : report = none)
          rw [← leaves nofun] at fails
          exact ih fails
      | some message =>
          rw [handed] at reports fails
          cases (reports : report = some (Report.of decode message))
          cases reported : Report.of decode message with
          | failed error => exact ⟨rfl, error, List.mem_singleton_self _⟩
          | delivered kind decoded =>
              rw [reported] at leaves
              rw [← leaves nofun] at fails
              have decodes : ∃ decoded, decode message.payload = .ok decoded := by
                cases decoding : decode message.payload with
                | ok decoded => exact ⟨decoded, rfl⟩
                | error error =>
                    rw [Report.of, decoding] at reported
                    cases reported
              obtain ⟨panicked, error, member⟩ := ih (fun others => fails (by
                intro other found
                rcases List.mem_append.mp found with here | later
                · cases List.mem_singleton.mp here
                  exact decodes
                · exact others other later))
              exact ⟨panicked, error, List.mem_cons_of_mem _ member⟩

end TypedConsumer
/-! ### Batches of one session -/

abbrev framesFor (chunkSize : Nat) (messageIds : Nat → Nat) (messages : List Message) :
    List FrameMeta :=
  stream (numberedRuns chunkSize messageIds messages)

structure StandsAt (chunkSize : Nat) (messageIds : Nat → Nat) (decode : Decoder Decoded Error)
    (messages : List Message) (frames : Nat) (session : Session Decoded Error) : Prop where
  consumed : session.consumer.consumed = frames
  buffer : session.consumer.reassemblyBuf =
    batchReceiver.after .new ((framesFor chunkSize messageIds messages).take frames)
  reports : session.reports =
    (messages.take (completeIn chunkSize messages frames)).map (Report.of decode)
  decodes : ∀ message ∈ messages.take (completeIn chunkSize messages frames),
    ∃ decoded, decode message.payload = .ok decoded

variable {session : Session Decoded Error} {frames : Nat}

theorem standsAt_new (decode : Decoder Decoded Error) (messages : List Message) :
    StandsAt chunkSize messageIds decode messages 0 Session.new := by
  have none : completeIn chunkSize messages 0 = 0 := by
    cases messages with
    | nil => rfl
    | cons message rest =>
        have positive := frameCount_pos chunkSize message.payload
        rw [completeIn, if_neg (by omega)]
  constructor
  · rfl
  · rfl
  · rw [none]
    rfl
  · rw [none]
    exact fun _ impossible => absurd impossible List.not_mem_nil

theorem StandsAt.length (stands : StandsAt chunkSize messageIds decode messages frames session) :
    session.reports.length = completeIn chunkSize messages frames := by
  rw [stands.reports, List.length_map, List.length_take,
    Nat.min_eq_left (completeIn_le messages frames)]

theorem take_available (items : List FrameMeta) (processed upper : Nat) :
    items.take (processed + ((items.take upper).drop processed).length) =
        items.take processed ++ (items.take upper).drop processed ∧
      items.take (processed + ((items.take upper).drop processed).length) =
        items.take (max processed upper) := by
  have available : (items.take upper).drop processed =
      (items.drop processed).take (upper - processed) := List.drop_take
  have grown : items.take (processed + ((items.take upper).drop processed).length) =
      items.take processed ++ (items.take upper).drop processed := by
    rw [List.take_add, available, List.length_take, ← List.take_eq_take_min]
  refine ⟨grown, ?_⟩
  have split : max processed upper = processed + (upper - processed) := by omega
  rw [grown, split, List.take_add, available]

theorem StandsAt.goesThrough (positive : 0 < chunkSize)
    (stands : StandsAt chunkSize messageIds decode messages frames session) {upper : Nat}
    (decodes : ∀ message ∈ batchReceiver.outputs session.consumer.reassemblyBuf
        (((framesFor chunkSize messageIds messages).take upper).drop frames),
      ∃ decoded, decode message.payload = .ok decoded) :
    ∃ batch consumer processed,
      session.consumer.processSnapshotBatch decode (framesFor chunkSize messageIds messages)
        upper = (batch, consumer) ∧ batch.panicked = false ∧
      StandsAt chunkSize messageIds decode messages processed
        (session.processed (batch.reports, consumer)) ∧
      completeIn chunkSize messages processed =
        completeIn chunkSize messages (max frames upper) := by
  obtain ⟨grown, bounded⟩ := take_available (framesFor chunkSize messageIds messages) frames upper
  let processed := frames +
    (((framesFor chunkSize messageIds messages).take upper).drop frames).length
  have through := TypedConsumer.processFrames_through decodes
  have known := batch_outputs_take positive .new messageIds messages frames
  have outputs := batch_outputs_take positive .new messageIds messages processed
  have split := outputs
  rw [grown, Transducer.outputs_append, ← stands.buffer, known] at split
  let available := ((framesFor chunkSize messageIds messages).take upper).drop frames
  let buffer := batchReceiver.after session.consumer.reassemblyBuf available
  refine ⟨{ reports := (batchReceiver.outputs session.consumer.reassemblyBuf available).map
              (Report.of decode)
            reassemblyBuf := buffer, panicked := false },
    { consumed := processed, reassemblyBuf := buffer }, processed, ?_, rfl, ?_, ?_⟩
  · unfold TypedConsumer.processSnapshotBatch
    rw [stands.consumed]
    dsimp only
    rw [through]
    rfl
  · constructor
    · rfl
    · rw [grown, Transducer.after_append, ← stands.buffer]
      rfl
    · rw [← split, List.map_append, ← stands.reports]
      rfl
    · rw [← split]
      intro message member
      rcases List.mem_append.mp member with before | now
      · exact stands.decodes message before
      · exact decodes message now
  · have same := congrArg List.length (outputs.symm.trans ((congrArg _ bounded).trans
      (batch_outputs_take positive .new messageIds messages (max frames upper))))
    rw [List.length_take, List.length_take, Nat.min_eq_left (completeIn_le messages _),
      Nat.min_eq_left (completeIn_le messages _)] at same
    exact same

theorem StandsAt.panics (positive : 0 < chunkSize)
    (stands : StandsAt chunkSize messageIds decode messages frames session) {upper : Nat}
    (fails : ¬ ∀ message ∈ batchReceiver.outputs session.consumer.reassemblyBuf
        (((framesFor chunkSize messageIds messages).take upper).drop frames),
      ∃ decoded, decode message.payload = .ok decoded) :
    ∃ batch consumer,
      session.consumer.processSnapshotBatch decode (framesFor chunkSize messageIds messages)
        upper = (batch, consumer) ∧ batch.panicked = true ∧ consumer.consumed = frames ∧
      (∃ error, .failed error ∈ batch.reports) ∧
      ¬ ∀ message ∈ messages.take (completeIn chunkSize messages upper),
        ∃ decoded, decode message.payload = .ok decoded := by
  obtain ⟨grown, bounded⟩ := take_available (framesFor chunkSize messageIds messages) frames upper
  obtain ⟨panicked, failed⟩ := TypedConsumer.processFrames_panics fails
  let batch := TypedConsumer.processFrames decode session.consumer.reassemblyBuf
    (((framesFor chunkSize messageIds messages).take upper).drop frames)
  refine ⟨batch, { consumed := frames, reassemblyBuf := batch.reassemblyBuf }, ?_, panicked, rfl,
    failed, ?_⟩
  · unfold TypedConsumer.processSnapshotBatch
    rw [stands.consumed]
    exact if_pos panicked
  · intro decodes
    apply fails
    intro message member
    by_cases ahead : frames < upper
    · apply decodes
      rw [Nat.max_eq_right (Nat.le_of_lt ahead), grown] at bounded
      rw [← batch_outputs_take positive .new messageIds messages upper, ← bounded,
        Transducer.outputs_append, ← stands.buffer]
      exact List.mem_append_right _ member
    · have none : ((framesFor chunkSize messageIds messages).take upper).drop frames = [] := by
        apply List.drop_eq_nil_of_le
        exact Nat.le_trans (List.length_take_le _ _) (Nat.le_of_not_lt ahead)
      rw [none] at member
      cases member

/-- Behind a batch that goes through, a call goes on with its next look. -/
theorem processAvailable_goesOn {decode : Decoder Decoded Error} {items : List FrameMeta}
    {upper : Nat} {batch : TypedConsumer.Batch Decoded Error} {consumer : TypedConsumer}
    (processed : session.consumer.processSnapshotBatch decode items upper = (batch, consumer))
    (through : batch.panicked = false) (looks : List Nat) :
    session.processed (session.consumer.processAvailable decode items (upper :: looks)) =
      (session.processed (batch.reports, consumer)).processed
        (consumer.processAvailable decode items looks) := by
  rw [TypedConsumer.processAvailable, processed]
  dsimp only
  rw [if_neg (by rw [through]; exact nofun)]
  simp only [Session.processed, List.append_assoc]

/-- A call that panics has reported what failed, and the consumer stands where the last
batch began. -/
structure Panicked (chunkSize : Nat) (messageIds : Nat → Nat) (decode : Decoder Decoded Error)
    (messages : List Message) (before after : Session Decoded Error) where
  begun : Session Decoded Error
  frames : Nat
  stands : StandsAt chunkSize messageIds decode messages frames begun
  kept : before.reports <+: begun.reports
  batch : List (Report Decoded Error)
  reports : after.reports = begun.reports ++ batch
  fails : ∃ error, Report.failed error ∈ batch
  consumed : after.consumer.consumed = frames

theorem StandsAt.grows {later : Session Decoded Error} {processed : Nat}
    (stands : StandsAt chunkSize messageIds decode messages frames session)
    (after : StandsAt chunkSize messageIds decode messages processed later)
    (grown : completeIn chunkSize messages frames ≤ completeIn chunkSize messages processed) :
    session.reports <+: later.reports := by
  rw [stands.reports, after.reports]
  exact (List.take_prefix_take_left grown).map _

theorem StandsAt.processes (positive : 0 < chunkSize)
    (stands : StandsAt chunkSize messageIds decode messages frames session) (looks : List Nat) :
    (∃ processed,
      StandsAt chunkSize messageIds decode messages processed
        (session.processed (session.consumer.processAvailable decode
          (framesFor chunkSize messageIds messages) looks)) ∧
      completeIn chunkSize messages frames ≤ completeIn chunkSize messages processed ∧
      completeIn chunkSize messages (publishedBy looks) ≤ completeIn chunkSize messages processed) ∨
    (¬ Decodes decode messages chunkSize looks ∧
      Nonempty (Panicked chunkSize messageIds decode messages session
        (session.processed (session.consumer.processAvailable decode
          (framesFor chunkSize messageIds messages) looks)))) := by
  induction looks generalizing session frames with
  | nil =>
      left
      have same : session.processed (session.consumer.processAvailable decode
          (framesFor chunkSize messageIds messages) []) = session := by
        simp only [TypedConsumer.processAvailable, Session.processed, List.append_nil]
      rw [same]
      exact ⟨frames, stands, Nat.le_refl _, completeIn_mono messages (Nat.zero_le frames)⟩
  | cons upper looks ih =>
      have published : publishedBy (upper :: looks) = max upper (publishedBy looks) := rfl
      by_cases decodes : ∀ message ∈ batchReceiver.outputs session.consumer.reassemblyBuf
          (((framesFor chunkSize messageIds messages).take upper).drop frames),
        ∃ decoded, decode message.payload = .ok decoded
      · obtain ⟨batch, consumer, between, processed, through, now, reach⟩ :=
          stands.goesThrough positive decodes
        rw [processAvailable_goesOn processed through]
        have further : completeIn chunkSize messages frames ≤
            completeIn chunkSize messages between := by
          rw [reach]
          exact completeIn_mono messages (Nat.le_max_left frames upper)
        rcases ih now with ⟨last, after, more, complete⟩ | ⟨fails, ⟨panicked⟩⟩
        · left
          refine ⟨last, after, Nat.le_trans further more, ?_⟩
          rw [published]
          rcases Nat.le_total upper (publishedBy looks) with later | before
          · rw [Nat.max_eq_right later]
            exact complete
          · rw [Nat.max_eq_left before]
            apply Nat.le_trans _ more
            rw [reach]
            exact completeIn_mono messages (Nat.le_max_right frames upper)
        · right
          constructor
          · intro all
            apply fails
            intro message member
            apply all message
            rw [published]
            exact (List.take_prefix_take_left
              (completeIn_mono messages (Nat.le_max_right upper _))).subset member
          · exact ⟨{ panicked with
              kept := (stands.grows now further).trans panicked.kept }⟩
      · right
        obtain ⟨batch, consumer, processed, panicked, consumed, fails, undecoded⟩ :=
          stands.panics positive decodes
        have result : session.consumer.processAvailable decode
            (framesFor chunkSize messageIds messages) (upper :: looks) =
            (batch.reports, consumer) := by
          rw [TypedConsumer.processAvailable, processed]
          exact if_pos panicked
        constructor
        · intro all
          apply undecoded
          intro message member
          apply all message
          rw [published]
          exact (List.take_prefix_take_left
            (completeIn_mono messages (Nat.le_max_left upper _))).subset member
        · rw [result]
          exact ⟨{ begun := session, frames, stands, kept := List.prefix_rfl
                   batch := batch.reports, reports := rfl, fails, consumed }⟩

theorem Panicked.not_isolates {before after : Session Decoded Error}
    (panicked : Panicked chunkSize messageIds decode messages before after) {path : ReceivePath}
    {looks : List Nat} : ¬ Isolates decode messages chunkSize path looks before after := by
  intro isolates
  obtain ⟨error, failed⟩ := panicked.fails
  have within : after.reports.length ≤ messages.length := by
    have length := congrArg List.length isolates.inOrder
    rw [List.length_map, List.length_take] at length
    omega
  have member : Report.failed error ∈ after.reports.drop before.reports.length := by
    rw [panicked.reports, List.drop_append_of_le_length panicked.kept.length_le]
    exact List.mem_append_right _ failed
  have reach : after.reports.length ≤ completeIn chunkSize messages panicked.frames := by
    rw [le_completeIn_iff within, ← isolates.behind error member]
    exact Nat.le_of_eq panicked.consumed
  have some : 0 < panicked.batch.length := List.length_pos_of_mem failed
  rw [panicked.reports, List.length_append, panicked.stands.length] at reach
  omega

/-! ### Whole sessions -/

theorem run_snoc (path : ReceivePath) (decode : Decoder Decoded Error) (items : List FrameMeta)
    (calls : List (List Nat)) (looks : List Nat) :
    Session.run path decode items (calls ++ [looks]) =
      (Session.run path decode items calls).call path decode items looks := by
  simp only [Session.run, List.foldl_append, List.foldl_cons, List.foldl_nil]

theorem call_batches {path : ReceivePath} (batches : path.batches = true)
    (decode : Decoder Decoded Error) (items : List FrameMeta) (looks : List Nat) :
    session.call path decode items looks =
      session.processed (session.consumer.processAvailable decode items looks) := by
  cases path with
  | recvOwned => cases batches
  | recvLeased => cases batches
  | processAvailable => rfl
  | processAvailableZeroCopy => rfl

theorem run_standsBehind (positive : 0 < chunkSize) {path : ReceivePath}
    (single : path.batches = false) (calls : List (List Nat)) :
    ∃ count, StandsBehind chunkSize decode messages count
      (Session.run path decode (framesFor chunkSize messageIds messages) calls) := by
  induction calls using List.reverseRecOn with
  | nil =>
      refine ⟨0, Nat.zero_le _, ?_, ?_⟩
      · cases messages with
        | nil => rfl
        | cons message rest => rfl
      · rfl
  | append_singleton calls looks ih =>
      obtain ⟨count, stands⟩ := ih
      rw [run_snoc]
      exact ⟨_, stands.receives positive single looks⟩

theorem run_standsAt (positive : 0 < chunkSize) {path : ReceivePath}
    (batches : path.batches = true) {calls : List (List Nat)}
    (decodes : ∀ looks ∈ calls, Decodes decode messages chunkSize looks) :
    ∃ processed, StandsAt chunkSize messageIds decode messages processed
      (Session.run path decode (framesFor chunkSize messageIds messages) calls) := by
  induction calls using List.reverseRecOn with
  | nil => exact ⟨0, standsAt_new decode messages⟩
  | append_singleton calls looks ih =>
      obtain ⟨processed, stands⟩ :=
        ih (fun earlier member => decodes earlier (List.mem_append_left _ member))
      rw [run_snoc, call_batches batches]
      rcases stands.processes positive looks with ⟨last, after, _⟩ | ⟨fails, _⟩
      · exact ⟨last, after⟩
      · exact absurd (decodes looks (List.mem_append_right _ (List.mem_singleton_self _))) fails

theorem StandsBehind.isolates (positive : 0 < chunkSize) {path : ReceivePath}
    (single : path.batches = false) {count : Nat}
    (stands : StandsBehind chunkSize decode messages count session) (looks : List Nat) :
    Isolates decode messages chunkSize path looks session
      (session.call path decode (framesFor chunkSize messageIds messages) looks) := by
  have after : StandsBehind chunkSize decode messages _
      (session.call path decode (framesFor chunkSize messageIds messages) looks) :=
    stands.receives positive single looks
  constructor
  · rw [after.length]
    exact after.reports
  · intro error failed
    rw [after.length]
    exact after.consumed
  · intro more
    rw [stands.length] at more ⊢
    rw [after.length, if_pos more]
    exact Nat.lt_succ_self count
  · intro batches
    rw [single] at batches
    cases batches

theorem StandsAt.isolates {processed : Nat} {after : Session Decoded Error} {path : ReceivePath}
    {looks : List Nat} (stands : StandsAt chunkSize messageIds decode messages processed after)
    (reach : completeIn chunkSize messages (publishedBy looks) ≤
      completeIn chunkSize messages processed) :
    Isolates decode messages chunkSize path looks session after := by
  constructor
  · rw [stands.length]
    exact stands.reports
  · intro error failed
    have member := List.mem_of_mem_drop failed
    rw [stands.reports] at member
    obtain ⟨message, found, reported⟩ := List.mem_map.mp member
    exact absurd (stands.decodes message found) (TypedConsumer.of_failed reported)
  · intro more
    rw [stands.length]
    exact Nat.lt_of_lt_of_le more reach
  · intro _ _
    rw [stands.length]
    exact reach

/-- The calls of a run isolate what does not decode if and only if they are calls for one
message, or none of them finds such a message. -/
theorem isolated_iff (positive : 0 < chunkSize) (decode : Decoder Decoded Error)
    (messages : List Message) (messageIds : Nat → Nat) (path : ReceivePath)
    (calls : List (List Nat)) :
    Isolated decode messages chunkSize path (framesFor chunkSize messageIds messages) calls ↔
      (path.batches = true → ∀ looks ∈ calls, Decodes decode messages chunkSize looks) := by
  constructor
  · intro isolated batches
    -- The first call that finds such a message has everything in front of it decoded.
    have upTo : ∀ later earlier, calls = earlier ++ later →
        (∀ looks ∈ earlier, Decodes decode messages chunkSize looks) →
        ∀ looks ∈ later, Decodes decode messages chunkSize looks := by
      intro later
      induction later with
      | nil => exact fun _ _ _ _ impossible => absurd impossible List.not_mem_nil
      | cons looks later ih =>
          intro earlier split decodes
          have now : Decodes decode messages chunkSize looks := by
            obtain ⟨processed, stands⟩ : ∃ processed,
                StandsAt chunkSize messageIds decode messages processed _ :=
              run_standsAt positive batches decodes
            have isolates := isolated earlier looks later split
            rw [run_snoc, call_batches batches] at isolates
            rcases stands.processes positive looks with ⟨last, after, _, reach⟩ | ⟨_, ⟨panicked⟩⟩
            · intro message member
              exact after.decodes message
                ((List.take_prefix_take_left reach).subset member)
            · exact absurd isolates panicked.not_isolates
          intro other member
          rcases List.mem_cons.mp member with here | behind
          · exact here ▸ now
          · apply ih (earlier ++ [looks]) (by simp [split]) _ other behind
            intro before found
            rcases List.mem_append.mp found with past | present
            · exact decodes before past
            · exact List.mem_singleton.mp present ▸ now
    exact upTo calls [] rfl (fun _ impossible => absurd impossible List.not_mem_nil)
  · intro decodes earlier looks later split
    rw [run_snoc]
    cases batches : path.batches with
    | false =>
        obtain ⟨count, stands⟩ : ∃ count, StandsBehind chunkSize decode messages count
            (Session.run path decode (framesFor chunkSize messageIds messages) earlier) :=
          run_standsBehind positive batches earlier
        exact stands.isolates positive batches looks
    | true =>
        have all := decodes batches
        rw [split] at all
        obtain ⟨processed, stands⟩ : ∃ processed,
            StandsAt chunkSize messageIds decode messages processed _ :=
          run_standsAt positive batches
            (fun before member => all before (List.mem_append_left _ member))
        rw [call_batches batches]
        rcases stands.processes positive looks with ⟨last, after, _, reach⟩ | ⟨fails, _⟩
        · exact after.isolates reach
        · exact absurd (all looks (List.mem_append_right _ List.mem_cons_self)) fails

/-- Whatever the slots held before and wherever the counter of message ids stands, what is
published can be read, and its receipt is isolated if and only if it is one message after
the other or everything that is complete where a call looks decodes. -/
def IsolatedUnlessBatched (F : Type) [FramedTransportFrame F] (decode : Decoder Decoded Error)
    (messages : List Message) (path : ReceivePath) (calls : List (List Nat)) : Prop :=
  ∀ (messageId : Nat) (old : Nat → F), ∃ frames metas,
    publishAll old messageId messages = some frames ∧ frameMetas frames = some metas ∧
    (Isolated decode messages (FramedTransportFrame.payloadCapacity F) path metas calls ↔
      (path.batches = true → ∀ looks ∈ calls,
        Decodes decode messages (FramedTransportFrame.payloadCapacity F) looks))

theorem isolatedUnlessBatched_of_carries {F : Type} [FramedTransportFrame F]
    (carries : Carries F) (positive : 0 < FramedTransportFrame.payloadCapacity F)
    (decode : Decoder Decoded Error) (messages : List Message) (path : ReceivePath)
    (calls : List (List Nat)) : IsolatedUnlessBatched F decode messages path calls := by
  intro messageId old
  obtain ⟨frames, published, shown⟩ := publishAll_shows old carries positive messageId messages
  exact ⟨frames, _, published, shown,
    isolated_iff positive decode messages (idsFrom messageId) path calls⟩

/-- A message that does not decode is isolated by the receivers that return its error, and
by those that panic if and only if they do not find it. -/
theorem decode_failure_isolated_iff (dataBytes : Nat) (positive : 1 ≤ dataBytes)
    (bounded : dataBytes < 2 ^ 32) (decode : Decoder Decoded Error) (messages : List Message)
    (path : ReceivePath) (calls : List (List Nat)) :
    IsolatedUnlessBatched (FixedFrame dataBytes) decode messages path calls ∧
      IsolatedUnlessBatched (AlignedFixedFrame dataBytes) decode messages path calls := by
  constructor
  · exact isolatedUnlessBatched_of_carries (fixedFrame_carries bounded) positive decode messages
      path calls
  · exact isolatedUnlessBatched_of_carries (alignedFixedFrame_carries bounded) positive decode
      messages path calls

def decodeByte : Decoder UInt8 Unit
  | [byte] => .ok byte
  | _ => .error ()

theorem decode_failure_isolated_iff_bytes :
    IsolatedUnlessBatched (FixedFrame 2) decodeByte [⟨1, [10]⟩, ⟨2, []⟩, ⟨3, [12]⟩]
        .processAvailable [[1], [3]] ∧
      IsolatedUnlessBatched (AlignedFixedFrame 2) decodeByte [⟨1, [10]⟩, ⟨2, []⟩, ⟨3, [12]⟩]
        .processAvailable [[1], [3]] :=
  decode_failure_isolated_iff 2 (by decide) (by decide) decodeByte _ _ _

/-- The message in front of the one that fails is delivered by each call, and the message
behind it by none. -/
theorem delivered_again_after_failure :
    ∃ frames metas,
      publishAll (fun _ => emptyFrame 2) 1 [⟨1, [10]⟩, ⟨2, []⟩, ⟨3, [12]⟩] = some frames ∧
      frameMetas frames = some metas ∧
      (Session.run .processAvailable decodeByte metas [[3], [3]]).reports =
        [.delivered 1 10, .failed (), .delivered 1 10, .failed ()] ∧
      ¬ Isolated decodeByte [⟨1, [10]⟩, ⟨2, []⟩, ⟨3, [12]⟩] 2 .processAvailable metas
        [[3], [3]] := by
  refine ⟨_, _, rfl, rfl, by decide, ?_⟩
  intro isolated
  have twice := (isolated [[3]] [3] [] rfl).inOrder
  revert twice
  decide

end Framing
