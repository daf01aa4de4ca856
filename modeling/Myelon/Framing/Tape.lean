/-
The frames that publications write, recorded on a tape.

Each frame is written over what its slot held before, whatever that was. The
counter of message ids wraps, and starts afresh in every process. A writer may fail
in front of any frame; what was written by then stays.
-/

import Myelon.Framing.Runs

namespace Framing

open Streaming

structure Tape (F : Type) where
  messageId : Nat
  frames : List F

abbrev Taping (F : Type) := StateT (Tape F) Option

variable {F : Type}

instance : Panics (Taping F) where
  panics := fun _ => none

def fetchAddMessageId : Taping F Nat := fun tape =>
  some (tape.messageId, { tape with messageId := (tape.messageId + 1) % 2 ^ 32 })

/-- Another process takes over, with a counter of its own. -/
def restartMessageId (messageId : Nat) : Taping F Unit := fun tape =>
  some ((), { tape with messageId })

variable [FramedTransportFrame F] (old : Nat → F)

def writeSlot (chunk : List UInt8) (kind : UInt8) (msgId : Nat) (flags : UInt8) :
    Taping F Unit := fun tape =>
  match FramedTransportFrame.writeFrame (old tape.frames.length) chunk kind msgId flags with
  | none => none
  | some frame => some ((), { tape with frames := tape.frames ++ [frame] })

/-- The same, with an error where the tape has reached a length. -/
def refusingSlot {Refusal : Type} (refusal : Option (Nat × Refusal)) (chunk : List UInt8)
    (kind : UInt8) (msgId : Nat) (flags : UInt8) : Taping F (Except Refusal Unit) := fun tape =>
  let accepted := (writeSlot old chunk kind msgId flags tape).map fun out => (.ok (), out.2)
  match refusal with
  | some (place, error) =>
      if tape.frames.length = place then some (.error error, tape) else accepted
  | none => accepted

def tryWriteSlot (failsAt : Nat) : List UInt8 → UInt8 → Nat → UInt8 → Taping F (Except Unit Unit) :=
  refusingSlot old (some (failsAt, ()))

/-- One call of a publisher: of the one that cannot fail, or of the other with the
number of frames after which its writer fails. -/
structure Publication where
  messageId : Nat
  message : Message
  failsAfter : Option Nat

namespace Publication

variable (F) in
def run (publication : Publication) : Run (FramedTransportFrame.payloadCapacity F) :=
  let count := frameCount (FramedTransportFrame.payloadCapacity F) publication.message.payload
  { messageId := publication.messageId
    message := publication.message
    emitted := (publication.failsAfter.elim count (min · count))
    within := by
      cases publication.failsAfter with
      | none => exact Nat.le_refl _
      | some failsAfter => exact Nat.min_le_right _ _ }

def publish (publication : Publication) : Taping F Unit := do
  restartMessageId publication.messageId
  let tape ← get
  match publication.failsAfter with
  | none =>
      publishFramedPayloadInPlace fetchAddMessageId publication.message.payload
        publication.message.kind (FramedTransportFrame.payloadCapacity F) (writeSlot old)
  | some failsAfter => do
      let _ ← publishFramedPayloadResultInPlace fetchAddMessageId publication.message.payload
        publication.message.kind (FramedTransportFrame.payloadCapacity F)
        (tryWriteSlot old (tape.frames.length + failsAfter))
      pure ()

end Publication

/-- The frames of one message after the other, with the ids of one counter. -/
def publishAll (messageId : Nat) (messages : List Message) : Option (List F) :=
  (forEach (fun message => publishFramedPayloadInPlace fetchAddMessageId message.payload
      message.kind (FramedTransportFrame.payloadCapacity F) (writeSlot old)) messages
    { messageId, frames := [] }).map fun out => out.2.frames

/-- The frames of calls each of which finds the counter at its own value. -/
def recorded (publications : List Publication) : Option (List F) :=
  (forEach (Publication.publish old) publications
    { messageId := 0, frames := [] }).map fun out => out.2.frames

def frameMetas (frames : List F) : Option (List FrameMeta) :=
  frames.mapM FramedTransportFrame.frameMeta

def readBack (publications : List Publication) : Option (List FrameMeta) :=
  (recorded old publications).bind frameMetas

/-! ### What is written is what is shown -/

theorem frameMetas_append {first second : List F} {firstMetas secondMetas : List FrameMeta}
    (left : frameMetas first = some firstMetas) (right : frameMetas second = some secondMetas) :
    frameMetas (first ++ second) = some (firstMetas ++ secondMetas) := by
  unfold frameMetas at *
  rw [List.mapM_append, left, right]
  rfl

def Tape.Grows (before after : Tape F) (metas : List FrameMeta) : Prop :=
  ∃ more, after.frames = before.frames ++ more ∧ frameMetas more = some metas

theorem Tape.Grows.refl (tape : Tape F) : tape.Grows tape [] :=
  ⟨[], (List.append_nil _).symm, rfl⟩

theorem Tape.Grows.trans {first second third : Tape F} {left right : List FrameMeta}
    (earlier : first.Grows second left) (later : second.Grows third right) :
    first.Grows third (left ++ right) := by
  obtain ⟨more, frames, metas⟩ := earlier
  obtain ⟨evenMore, framesLater, metasLater⟩ := later
  exact ⟨more ++ evenMore, by rw [framesLater, frames, List.append_assoc],
    frameMetas_append metas metasLater⟩

theorem frameMetas_length {frames : List F} {metas : List FrameMeta}
    (shown : frameMetas frames = some metas) : frames.length = metas.length := by
  induction frames generalizing metas with
  | nil =>
      cases shown
      rfl
  | cons frame rest ih =>
      simp only [frameMetas, List.mapM_cons, Option.pure_def, Option.bind_eq_bind,
        Option.bind_eq_some_iff, Option.some.injEq] at shown
      obtain ⟨first, _shownFirst, others, shownOthers, rfl⟩ := shown
      rw [List.length_cons, List.length_cons, ih shownOthers]

theorem Tape.Grows.length {before after : Tape F} {metas : List FrameMeta}
    (grows : before.Grows after metas) :
    after.frames.length = before.frames.length + metas.length := by
  obtain ⟨more, frames, shown⟩ := grows
  rw [frames, List.length_append, frameMetas_length shown]

variable (carries : Carries F)

include carries

theorem writeSlot_grows {write : FrameWrite}
    (fits : write.chunk.length ≤ FramedTransportFrame.payloadCapacity F) (tape : Tape F) :
    ∃ after, writeSlot old write.chunk write.kind write.msgId write.flags tape =
        some ((), after) ∧ after.messageId = tape.messageId ∧ tape.Grows after [write.shown] := by
  obtain ⟨frame, written, shown⟩ := carries.written (old tape.frames.length) write fits
  refine ⟨{ tape with frames := tape.frames ++ [frame] }, ?_, rfl, [frame], rfl, ?_⟩
  · unfold writeSlot
    rw [written]
  · unfold frameMetas
    rw [List.mapM_cons, shown, List.mapM_nil]
    rfl

theorem writeSlots_grow {writes : List FrameWrite}
    (fit : ∀ write ∈ writes,
      write.chunk.length ≤ FramedTransportFrame.payloadCapacity F) (tape : Tape F) :
    ∃ after, forEach (fun write : FrameWrite =>
          writeSlot old write.chunk write.kind write.msgId write.flags) writes tape =
        some ((), after) ∧ after.messageId = tape.messageId ∧
      tape.Grows after (writes.map FrameWrite.shown) := by
  induction writes generalizing tape with
  | nil => exact ⟨tape, rfl, rfl, Tape.Grows.refl tape⟩
  | cons write rest ih =>
      obtain ⟨middle, written, here, grows⟩ :=
        writeSlot_grows old carries (fit write List.mem_cons_self) tape
      obtain ⟨after, others, there, further⟩ :=
        ih (fun other member => fit other (List.mem_cons_of_mem _ member)) middle
      refine ⟨after, ?_, there.trans here, grows.trans further⟩
      change (writeSlot old _ _ _ _ tape).bind _ = _
      rw [written]
      exact others

/-- What comes of so many frames, where the one behind the first few may be refused. -/
def outcome {Refusal : Type} : Option (Nat × Refusal) → Nat → Except Refusal Unit
  | some (allowed, error), count => if allowed < count then .error error else .ok ()
  | none, _ => .ok ()

def emittedOf {Refusal : Type} (refusal : Option (Nat × Refusal)) (count : Nat) : Nat :=
  refusal.elim count fun refused => min refused.1 count

def Tape.refusalAt {Refusal : Type} (tape : Tape F) (refusal : Option (Nat × Refusal)) :
    Option (Nat × Refusal) :=
  refusal.map fun refused => (tape.frames.length + refused.1, refused.2)

theorem refusingSlots_grow {Refusal : Type} {writes : List FrameWrite}
    (fit : ∀ write ∈ writes,
      write.chunk.length ≤ FramedTransportFrame.payloadCapacity F) (tape : Tape F)
    (refusal : Option (Nat × Refusal)) :
    ∃ after, tryEach (fun write : FrameWrite => refusingSlot old (tape.refusalAt refusal)
          write.chunk write.kind write.msgId write.flags) writes tape =
        some (outcome refusal writes.length, after) ∧ after.messageId = tape.messageId ∧
      tape.Grows after ((writes.take (emittedOf refusal writes.length)).map FrameWrite.shown) := by
  induction writes generalizing tape refusal with
  | nil =>
      have accepted : outcome refusal 0 = .ok () := by
        cases refusal <;> rfl
      rw [List.length_nil, accepted, List.take_nil]
      exact ⟨tape, rfl, rfl, Tape.Grows.refl tape⟩
  | cons write rest ih =>
      obtain ⟨middle, written, here, grows⟩ :=
        writeSlot_grows old carries (fit write List.mem_cons_self) tape
      have length : middle.frames.length = tape.frames.length + 1 := grows.length
      have behind (later : Option (Nat × Refusal))
          (passes : refusingSlot old (tape.refusalAt refusal) write.chunk write.kind write.msgId
            write.flags tape = some (.ok (), middle))
          (same : tape.refusalAt refusal = middle.refusalAt later)
          (outcomes : outcome refusal (rest.length + 1) = outcome later rest.length)
          (emitted : emittedOf refusal (rest.length + 1) = emittedOf later rest.length + 1) :
          ∃ after, tryEach (fun write : FrameWrite => refusingSlot old (tape.refusalAt refusal)
                write.chunk write.kind write.msgId write.flags) (write :: rest) tape =
              some (outcome refusal (rest.length + 1), after) ∧ after.messageId = tape.messageId ∧
            tape.Grows after (((write :: rest).take (emittedOf refusal (rest.length + 1))).map
              FrameWrite.shown) := by
        obtain ⟨after, others, there, further⟩ :=
          ih (fun other member => fit other (List.mem_cons_of_mem _ member)) middle later
        refine ⟨after, ?_, there.trans here, ?_⟩
        · change (refusingSlot old _ _ _ _ _ tape).bind _ = _
          rw [passes, outcomes, same]
          exact others
        · rw [emitted, List.take_succ_cons]
          exact grows.trans further
      rw [List.length_cons]
      cases refusal with
      | none =>
          refine behind none ?_ rfl rfl rfl
          change (writeSlot old _ _ _ _ tape).map _ = _
          rw [written]
          rfl
      | some refused =>
          obtain ⟨allowed, error⟩ := refused
          cases allowed with
          | zero =>
              have fails : refusingSlot old (tape.refusalAt (some (0, error))) write.chunk
                  write.kind write.msgId write.flags tape = some (.error error, tape) :=
                if_pos (Nat.add_zero _).symm
              refine ⟨tape, ?_, rfl, ?_⟩
              · change (refusingSlot old _ _ _ _ _ tape).bind _ = _
                rw [fails, outcome, if_pos (Nat.succ_pos _)]
                rfl
              · rw [emittedOf, Option.elim_some, Nat.zero_min, List.take_zero]
                exact Tape.Grows.refl tape
          | succ allowed =>
              refine behind (some (allowed, error)) ?_ ?_ ?_ ?_
              · refine (if_neg (by dsimp only; omega)).trans ?_
                rw [written]
                rfl
              · rw [Tape.refusalAt, Tape.refusalAt, Option.map_some, Option.map_some, length,
                  Nat.add_right_comm, Nat.add_assoc]
              · simp only [outcome, Nat.add_lt_add_iff_right]
              · exact Nat.add_min_add_right allowed rest.length 1

/-! ### What a publication writes -/

variable (positive : 0 < FramedTransportFrame.payloadCapacity F)

include positive

omit carries in
theorem frameWrites_fit (message : Message) (msgId : Nat) :
    ∀ write ∈ frameWrites message.payload message.kind
        (FramedTransportFrame.payloadCapacity F) msgId,
      write.chunk.length ≤ FramedTransportFrame.payloadCapacity F := by
  rw [frameWrites_eq positive]
  intro write member
  obtain ⟨index, _within, rfl⟩ := List.mem_map.mp member
  exact frameAt_fits index

omit [FramedTransportFrame F] carries positive in
theorem checkChunks_passes {chunkSize : Nat} (positive : 0 < chunkSize) (payload : List UInt8) :
    (checkChunks payload chunkSize : Taping F Unit) = pure () :=
  if_neg fun zero => Nat.ne_of_gt positive zero.2

theorem publishInPlace_grows (message : Message) (tape : Tape F) :
    ∃ after, publishFramedPayloadInPlace fetchAddMessageId message.payload message.kind
        (FramedTransportFrame.payloadCapacity F) (writeSlot old) tape = some ((), after) ∧
      after.messageId = (tape.messageId + 1) % 2 ^ 32 ∧
      tape.Grows after (shownFrom (FramedTransportFrame.payloadCapacity F) message
        tape.messageId 0
        (frameCount (FramedTransportFrame.payloadCapacity F) message.payload)) := by
  let taken : Tape F := { tape with messageId := (tape.messageId + 1) % 2 ^ 32 }
  obtain ⟨after, written, here, grows⟩ := writeSlots_grow old carries
    (frameWrites_fit positive message tape.messageId) taken
  refine ⟨after, ?_, here, ?_⟩
  · unfold publishFramedPayloadInPlace
    rw [checkChunks_passes positive]
    exact written
  · rw [shownFrom, ← frameWrites_eq_framesFrom positive]
    exact grows

theorem publishResultInPlace_grows {Refusal : Type} (message : Message)
    (refusal : Option (Nat × Refusal)) (tape : Tape F) :
    ∃ after, publishFramedPayloadResultInPlace fetchAddMessageId message.payload
        message.kind (FramedTransportFrame.payloadCapacity F)
        (refusingSlot old (tape.refusalAt refusal)) tape =
          some (outcome refusal (frameCount (FramedTransportFrame.payloadCapacity F)
            message.payload), after) ∧
      after.messageId = (tape.messageId + 1) % 2 ^ 32 ∧
      tape.Grows after (shownFrom (FramedTransportFrame.payloadCapacity F) message
        tape.messageId 0 (emittedOf refusal
          (frameCount (FramedTransportFrame.payloadCapacity F) message.payload))) := by
  let taken : Tape F := { tape with messageId := (tape.messageId + 1) % 2 ^ 32 }
  obtain ⟨after, written, here, grows⟩ := refusingSlots_grow old carries
    (frameWrites_fit positive message tape.messageId) taken refusal
  have count : (frameWrites message.payload message.kind (FramedTransportFrame.payloadCapacity F)
      tape.messageId).length =
        frameCount (FramedTransportFrame.payloadCapacity F) message.payload := by
    rw [frameWrites_eq_framesFrom positive, framesFrom_length]
  have within : emittedOf refusal
      (frameCount (FramedTransportFrame.payloadCapacity F) message.payload) ≤
        frameCount (FramedTransportFrame.payloadCapacity F) message.payload := by
    cases refusal with
    | none => exact Nat.le_refl _
    | some refused => exact Nat.min_le_right _ _
  rw [count] at written grows
  refine ⟨after, ?_, here, ?_⟩
  · unfold publishFramedPayloadResultInPlace
    rw [checkChunks_passes positive]
    exact written
  · rw [frameWrites_eq_framesFrom positive, framesFrom_take, Nat.min_eq_left within] at grows
    exact grows

theorem publication_grows (publication : Publication) (tape : Tape F) :
    ∃ after, publication.publish old tape = some ((), after) ∧
      tape.Grows after (publication.run F).frames := by
  obtain ⟨messageId, message, failsAfter⟩ := publication
  let restarted : Tape F := { tape with messageId }
  cases failsAfter with
  | none =>
      obtain ⟨after, written, _here, grows⟩ :=
        publishInPlace_grows old carries positive message restarted
      exact ⟨after, written, grows⟩
  | some allowed =>
      obtain ⟨after, written, _here, grows⟩ :=
        publishResultInPlace_grows old carries positive message (some (allowed, ())) restarted
      refine ⟨after, ?_, grows⟩
      change (publishFramedPayloadResultInPlace fetchAddMessageId message.payload message.kind
        (FramedTransportFrame.payloadCapacity F)
        (refusingSlot old (restarted.refusalAt (some (allowed, ())))) restarted).bind _ = _
      rw [written]
      rfl

def numberedRuns (chunkSize : Nat) (messageIds : Nat → Nat) :
    List Message → List (Run chunkSize)
  | [] => []
  | message :: rest =>
      { messageId := messageIds 0, message, emitted := frameCount chunkSize message.payload
        within := Nat.le_refl _ } ::
      numberedRuns chunkSize (fun index => messageIds (index + 1)) rest

def idsFrom (messageId : Nat) : Nat → Nat
  | 0 => messageId
  | index + 1 => idsFrom ((messageId + 1) % 2 ^ 32) index

omit [FramedTransportFrame F] carries positive in
theorem numberedRuns_complete {chunkSize : Nat} {messageIds : Nat → Nat}
    {messages : List Message} :
    ∀ run ∈ numberedRuns chunkSize messageIds messages, run.Complete := by
  induction messages generalizing messageIds with
  | nil => exact fun _ impossible => absurd impossible List.not_mem_nil
  | cons message rest ih =>
      intro run member
      rcases List.mem_cons.mp member with rfl | later
      · rfl
      · exact ih run later

omit [FramedTransportFrame F] carries positive in
theorem completed_numberedRuns (chunkSize : Nat) (messageIds : Nat → Nat)
    (messages : List Message) :
    completed (numberedRuns chunkSize messageIds messages) = messages := by
  induction messages generalizing messageIds with
  | nil => rfl
  | cons message rest ih =>
      rw [numberedRuns, completed_cons_complete rfl, ih]

theorem publishAll_shows (messageId : Nat) (messages : List Message) :
    ∃ frames, publishAll old messageId messages = some frames ∧
      frameMetas frames = some (stream (numberedRuns
        (FramedTransportFrame.payloadCapacity F) (idsFrom messageId) messages)) := by
  have whole : ∀ (messages : List Message) (tape : Tape F),
      ∃ after, forEach (fun message => publishFramedPayloadInPlace fetchAddMessageId
          message.payload message.kind (FramedTransportFrame.payloadCapacity F)
          (writeSlot old)) messages tape = some ((), after) ∧
        tape.Grows after (stream (numberedRuns (FramedTransportFrame.payloadCapacity F)
          (idsFrom tape.messageId) messages)) := by
    intro messages
    induction messages with
    | nil => exact fun tape => ⟨tape, rfl, Tape.Grows.refl tape⟩
    | cons message rest ih =>
        intro tape
        obtain ⟨middle, written, here, grows⟩ :=
          publishInPlace_grows old carries positive message tape
        obtain ⟨after, others, further⟩ := ih middle
        refine ⟨after, ?_, ?_⟩
        · change (publishFramedPayloadInPlace fetchAddMessageId message.payload message.kind
            (FramedTransportFrame.payloadCapacity F) (writeSlot old) tape).bind _ = _
          rw [written]
          exact others
        · rw [here] at further
          exact grows.trans further
  obtain ⟨after, written, more, frames, shown⟩ := whole messages { messageId, frames := [] }
  refine ⟨after.frames, ?_, ?_⟩
  · unfold publishAll
    rw [written]
    rfl
  · rw [frames, List.nil_append]
    exact shown

theorem recorded_shows (publications : List Publication) :
    ∃ frames, recorded old publications = some frames ∧
      frameMetas frames = some (stream (publications.map (Publication.run F))) := by
  have whole : ∀ (publications : List Publication) (tape : Tape F),
      ∃ after, forEach (Publication.publish old) publications tape = some ((), after) ∧
        tape.Grows after (stream (publications.map (Publication.run F))) := by
    intro publications
    induction publications with
    | nil => exact fun tape => ⟨tape, rfl, Tape.Grows.refl tape⟩
    | cons publication rest ih =>
        intro tape
        obtain ⟨middle, written, grows⟩ := publication_grows old carries positive publication tape
        obtain ⟨after, others, further⟩ := ih middle
        refine ⟨after, ?_, grows.trans further⟩
        change (publication.publish old tape).bind _ = _
        rw [written]
        exact others
  obtain ⟨after, written, more, frames, shown⟩ :=
    whole publications { messageId := 0, frames := [] }
  refine ⟨after.frames, ?_, ?_⟩
  · unfold recorded
    rw [written]
    rfl
  · rw [frames, List.nil_append]
    exact shown

theorem readBack_eq (publications : List Publication) :
    readBack old publications = some (stream (publications.map (Publication.run F))) := by
  obtain ⟨frames, written, shown⟩ := recorded_shows old carries positive publications
  rw [readBack, written]
  exact shown

end Framing
