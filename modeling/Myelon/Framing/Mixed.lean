/-
Calls of every kind on one consumer.

A batch call commits the frames that it has seen, also where the last of them is inside of a
message, and the rest of that message is in the buffer of its caller. A call for one message does
not look into the buffer: inside of a message it takes what follows for all of it.
-/

import Myelon.Framing.Typed

namespace Framing

open Streaming

variable {Decoded Error : Type} {chunkSize : Nat}

/-- A call, with the type that it decodes and what its looks at the producer's cursor find
published. -/
structure Receive (Decoded Error : Type) where
  path : ReceivePath
  decode : Decoder Decoded Error
  looks : List Nat

namespace Session

def receive (frames : List FrameMeta) (session : Session Decoded Error)
    (receive : Receive Decoded Error) : Session Decoded Error :=
  session.call receive.path receive.decode frames receive.looks

def receiveAll (frames : List FrameMeta) (calls : List (Receive Decoded Error)) :
    Session Decoded Error :=
  calls.foldl (receive frames) new

end Session

/-! ### What a call should do -/

def Message.behind (chunkSize : Nat) (message : Message) (frames : Nat) : Message :=
  { message with payload := message.payload.drop (frames * chunkSize) }

theorem Message.behind_none (message : Message) : message.behind chunkSize 0 = message := by
  rw [behind, Nat.zero_mul, List.drop_zero]

namespace Receive

variable (chunkSize : Nat) (messages : List Message)

/-- How many frames are committed behind a call. -/
def commits (call : Receive Decoded Error) (frames : Nat) : Nat :=
  let passed := completeIn chunkSize messages frames
  if call.path.batches then
    max frames (min (publishedBy call.looks) (framesOf chunkSize messages messages.length))
  else if passed < completeIn chunkSize messages (publishedBy call.looks) then
    framesOf chunkSize messages (passed + 1)
  else frames

def inside (frames : Nat) : Nat :=
  frames - framesOf chunkSize messages (completeIn chunkSize messages frames)

def between (frames later : Nat) : List Message :=
  (messages.take (completeIn chunkSize messages later)).drop (completeIn chunkSize messages frames)

/-- What a call hands over: a batch call whole messages, the others what is left of one. -/
def hands (call : Receive Decoded Error) (frames : Nat) : List Message :=
  let ended := between chunkSize messages frames (call.commits chunkSize messages frames)
  if call.path.batches then ended
  else ended.map fun message => message.behind chunkSize (inside chunkSize messages frames)

/-- A call for one message takes the rest of one of which a batch call has seen the beginning. -/
def Severs (call : Receive Decoded Error) (frames : Nat) : Prop :=
  call.path.batches = false ∧ 0 < inside chunkSize messages frames ∧
    frames < call.commits chunkSize messages frames

instance (call : Receive Decoded Error) (frames : Nat) :
    Decidable (call.Severs chunkSize messages frames) :=
  inferInstanceAs (Decidable (_ ∧ _))

end Receive

/-! ### Frames and messages -/

variable {messages : List Message} {messageIds : Nat → Nat}

theorem framesOf_completeIn (messages : List Message) (frames : Nat) :
    framesOf chunkSize messages (completeIn chunkSize messages frames) ≤ frames :=
  (le_completeIn_iff (completeIn_le messages frames)).mp (Nat.le_refl _)

theorem lt_framesOf_succ {frames : Nat}
    (more : completeIn chunkSize messages frames < messages.length) :
    frames < framesOf chunkSize messages (completeIn chunkSize messages frames + 1) := by
  apply Nat.lt_of_not_le
  intro reached
  exact absurd ((le_completeIn_iff more).mpr reached) (Nat.not_succ_le_self _)

theorem completeIn_framesOf {count : Nat} (within : count ≤ messages.length) :
    completeIn chunkSize messages (framesOf chunkSize messages count) = count := by
  apply Nat.le_antisymm
  · by_contra further
    have reached : count + 1 ≤ completeIn chunkSize messages (framesOf chunkSize messages count) :=
      by omega
    have bound : completeIn chunkSize messages (framesOf chunkSize messages count) ≤
        messages.length := completeIn_le messages _
    have here : count < messages.length := by omega
    have ends : framesOf chunkSize messages (count + 1) = _ :=
      framesOf_succ (List.getElem?_eq_getElem here)
    have positive := frameCount_pos chunkSize messages[count].payload
    rw [le_completeIn_iff here, ends] at reached
    omega
  · exact (le_completeIn_iff within).mpr (Nat.le_refl _)

theorem framesFor_length (messageIds : Nat → Nat) (messages : List Message) :
    (framesFor chunkSize messageIds messages).length =
      framesOf chunkSize messages messages.length := by
  induction messages generalizing messageIds with
  | nil => rfl
  | cons message rest ih =>
      rw [framesFor, numberedRuns, stream_cons, List.length_append, Run.frames_length, ih]
      rfl

theorem completeIn_framesOf_add {count : Nat} (within : count ≤ messages.length) (more : Nat) :
    completeIn chunkSize messages (framesOf chunkSize messages count + more) =
      count + completeIn chunkSize (messages.drop count) more := by
  induction messages generalizing count with
  | nil =>
      cases Nat.le_zero.mp within
      rfl
  | cons message rest ih =>
      cases count with
      | zero => simp only [framesOf, Nat.zero_add, List.drop_zero]
      | succ count =>
          have fits : frameCount chunkSize message.payload ≤
              frameCount chunkSize message.payload + framesOf chunkSize rest count + more := by
            omega
          have left : frameCount chunkSize message.payload + framesOf chunkSize rest count + more -
              frameCount chunkSize message.payload = framesOf chunkSize rest count + more := by
            omega
          rw [framesOf, completeIn, if_pos fits, left, ih (Nat.le_of_succ_le_succ within),
            List.drop_succ_cons]
          omega

namespace Receive

theorem between_same (messages : List Message) (frames : Nat) :
    between chunkSize messages frames frames = [] := by
  rw [between, List.drop_take, Nat.sub_self, List.take_zero]

theorem between_append {first second third : Nat} (early : first ≤ second)
    (late : second ≤ third) :
    between chunkSize messages first second ++ between chunkSize messages second third =
      between chunkSize messages first third := by
  have before : completeIn chunkSize messages first ≤ completeIn chunkSize messages second :=
    completeIn_mono messages early
  have behind : completeIn chunkSize messages second ≤ completeIn chunkSize messages third :=
    completeIn_mono messages late
  obtain ⟨some, reaches⟩ := Nat.exists_eq_add_of_le before
  obtain ⟨more, ends⟩ := Nat.exists_eq_add_of_le behind
  simp only [between, List.drop_take]
  rw [ends, reaches, Nat.add_sub_cancel_left, Nat.add_sub_cancel_left, Nat.add_assoc,
    Nat.add_sub_cancel_left, List.take_add, List.drop_drop]

end Receive

/-! ### The rest of a message -/

section Rest

variable {run : Run chunkSize} {first : Nat}

theorem framesAfter_take (run : Run chunkSize) {first count : Nat}
    (within : first + count ≤ run.emitted) :
    (run.framesAfter first).take count = (run.cutAt (first + count) within).framesAfter first := by
  have fewer : min count (run.emitted - first) = count := by omega
  have emitted : (run.cutAt (first + count) within).emitted - first = count :=
    Nat.add_sub_cancel_left first count
  rw [Run.framesAfter, Run.framesAfter, emitted, shownFrom, shownFrom, ← List.map_take,
    framesFrom_take, fewer]
  rfl

theorem owned_behind_early (complete : run.Complete) {early : Nat} (before : first ≤ early)
    (short : early < run.emitted) :
    ownedReceiver.outputs none
      ((run.cutAt early (Nat.le_of_lt short)).framesAfter first) = [] := by
  have cut : ¬ (run.cutAt early (Nat.le_of_lt short)).Complete :=
    fun whole => Nat.ne_of_lt short (whole.trans complete.symm)
  rcases Nat.eq_or_lt_of_le before with same | nonempty
  · subst same
    have none : (run.cutAt first (Nat.le_of_lt short)).framesAfter first = [] := by
      apply List.eq_nil_of_length_eq_zero
      rw [Run.framesAfter_length]
      exact Nat.sub_self first
    rw [none]
    rfl
  · have collects : _ ∧ ownedReceiver.outputs none
        ((run.cutAt early (Nat.le_of_lt short)).framesAfter first) = [] := owned_cut cut nonempty
    exact collects.2

theorem owned_behind_silent (complete : run.Complete) (rest : List FrameMeta) {frames : Nat}
    (short : first + frames < run.emitted) :
    ownedReceiver.outputs none ((run.framesAfter first ++ rest).take frames) = [] := by
  rw [List.take_append_of_le_length (by rw [Run.framesAfter_length]; omega),
    framesAfter_take run (Nat.le_of_lt short)]
  exact owned_behind_early complete (Nat.le_add_right first frames) short

/-- Inside of a message the owned receiver takes what is left of it for all of it. -/
theorem owned_behind (positive : 0 < chunkSize) (complete : run.Complete)
    (nonempty : first < run.emitted) (rest : List FrameMeta) {frames : Nat}
    (whole : run.emitted ≤ first + frames) :
    ownedReceiver.next none ((run.framesAfter first ++ rest).take frames) =
      some (run.emitted - first, none, run.message.behind chunkSize first) := by
  obtain ⟨before, emitted⟩ : ∃ before, run.emitted = first + before + 1 :=
    ⟨run.emitted - first - 1, by omega⟩
  have short : first + before < run.emitted := by omega
  let early := (run.cutAt (first + before) (Nat.le_of_lt short)).framesAfter first
  let last := (frameAt chunkSize run.message run.messageId (first + before)).shown
  have split : run.framesAfter first = early ++ [last] := by
    have count : run.emitted - first = before + 1 := by omega
    have fewer : (run.cutAt (first + before) (Nat.le_of_lt short)).emitted - first = before :=
      Nat.add_sub_cancel_left first before
    simp only [early, Run.framesAfter, count, fewer, shownFrom_snoc]
    rfl
  have quiet : ownedReceiver.outputs none early = [] :=
    owned_behind_early complete (Nat.le_add_right first before) short
  have length : early.length + 1 = run.emitted - first := by
    have sizes := congrArg List.length split
    rw [Run.framesAfter_length, List.length_append] at sizes
    exact sizes.symm
  obtain ⟨after, outputs⟩ := owned_complete positive complete nonempty
  rw [split] at after outputs
  have found := Transducer.next_last quiet after outputs
    (rest.take (frames - (run.emitted - first)))
  rw [List.take_append, List.take_of_length_le (by rw [Run.framesAfter_length]; omega),
    Run.framesAfter_length, split, List.append_assoc, List.singleton_append, found, length]
  rfl

theorem leased_behind (positive : 0 < chunkSize) (complete : run.Complete)
    (nonempty : first < run.emitted) (rest : List FrameMeta) {frames : Nat}
    (whole : run.emitted ≤ first + frames) (buffer : ReassemblyBuffer) :
    ∃ state, leasedReceiver.next (buffer, none) ((run.framesAfter first ++ rest).take frames) =
      some (run.emitted - first, state, run.message.behind chunkSize first) := by
  have owned := owned_behind positive complete nonempty rest whole
  have start : SameProgress (buffer, none) none := trivial
  obtain ⟨state, found, _same⟩ := Transducer.next_eq_of_related SameProgress
    (fun _ _ frame same => leased_step frame same) start owned
  exact ⟨state, found⟩

end Rest

/-! ### Where a buffer fits -/

def Fits (chunkSize : Nat) (messageIds : Nat → Nat) (messages : List Message) (frames : Nat)
    (buffer : ReassemblyBuffer) : Prop :=
  ∀ more, batchReceiver.outputs buffer
      (((framesFor chunkSize messageIds messages).drop frames).take more) =
    Receive.between chunkSize messages frames (frames + more)

theorem fits_framesOf (positive : 0 < chunkSize) {count : Nat} (within : count ≤ messages.length)
    (buffer : ReassemblyBuffer) :
    Fits chunkSize messageIds messages (framesOf chunkSize messages count) buffer := by
  intro more
  obtain ⟨later, left⟩ : ∃ later, (framesFor chunkSize messageIds messages).drop
      (framesOf chunkSize messages count) =
        framesFor chunkSize later (messages.drop count) := stream_drop messageIds messages within
  rw [left, batch_outputs_take positive, Receive.between, completeIn_framesOf within,
    completeIn_framesOf_add within, List.drop_take, Nat.add_sub_cancel_left]

theorem Fits.after {frames : Nat} {buffer : ReassemblyBuffer}
    (fits : Fits chunkSize messageIds messages frames buffer) (count : Nat) :
    Fits chunkSize messageIds messages (frames + count)
      (batchReceiver.after buffer
        (((framesFor chunkSize messageIds messages).drop frames).take count)) := by
  intro more
  have all := fits (count + more)
  rw [List.take_add, Transducer.outputs_append, fits count, ← Nat.add_assoc,
    ← Receive.between_append (Nat.le_add_right frames count) (Nat.le_add_right _ more),
    List.drop_drop] at all
  exact List.append_cancel_left all

/-- A consumer behind some frames, which may be inside of a message that its buffer fits. -/
structure StandsAmong (chunkSize : Nat) (messageIds : Nat → Nat) (messages : List Message)
    (frames : Nat) (consumer : TypedConsumer) : Prop where
  within : frames ≤ framesOf chunkSize messages messages.length
  consumed : consumer.consumed = frames
  fits : Fits chunkSize messageIds messages frames consumer.reassemblyBuf

theorem standsAmong_new (positive : 0 < chunkSize) (messageIds : Nat → Nat)
    (messages : List Message) :
    StandsAmong chunkSize messageIds messages 0 .new where
  within := Nat.zero_le _
  consumed := rfl
  fits := by
    have start : framesOf chunkSize messages 0 = 0 := by
      cases messages with
      | nil => rfl
      | cons message rest => rfl
    have fits : Fits chunkSize messageIds messages _ ReassemblyBuffer.new :=
      fits_framesOf positive (Nat.zero_le messages.length) _
    rw [start] at fits
    exact fits

/-! ### Batch calls -/

section Batches

variable {decode : Decoder Decoded Error} {frames : Nat} {consumer : TypedConsumer}

def seen (chunkSize : Nat) (messages : List Message) (frames upper : Nat) : Nat :=
  max frames (min upper (framesOf chunkSize messages messages.length))

theorem StandsAmong.snapshot (stands : StandsAmong chunkSize messageIds messages frames consumer)
    {upper : Nat}
    (decodes : ∀ message ∈ Receive.between chunkSize messages frames
        (seen chunkSize messages frames upper),
      ∃ decoded, decode message.payload = .ok decoded) :
    ∃ batch after,
      consumer.processSnapshotBatch decode (framesFor chunkSize messageIds messages) upper =
        (batch, after) ∧ batch.panicked = false ∧
      batch.reports = (Receive.between chunkSize messages frames
        (seen chunkSize messages frames upper)).map (Report.of decode) ∧
      StandsAmong chunkSize messageIds messages (seen chunkSize messages frames upper) after := by
  have within := stands.within
  let available := ((framesFor chunkSize messageIds messages).drop frames).take (upper - frames)
  have look : ((framesFor chunkSize messageIds messages).take upper).drop frames = available :=
    List.drop_take
  have length : available.length = min (upper - frames)
      (framesOf chunkSize messages messages.length - frames) := by
    rw [List.length_take, List.length_drop, framesFor_length]
  have reach : frames + available.length = seen chunkSize messages frames upper := by
    rw [length, seen]
    omega
  have same : ((framesFor chunkSize messageIds messages).drop frames).take available.length =
      available := by
    rw [List.length_take, ← List.take_eq_take_min]
  have handed := stands.fits available.length
  have further := stands.fits.after available.length
  rw [same, reach] at handed further
  rw [← handed] at decodes ⊢
  have through := TypedConsumer.processFrames_through decodes
  refine ⟨{ reports := (batchReceiver.outputs consumer.reassemblyBuf available).map
              (Report.of decode)
            reassemblyBuf := batchReceiver.after consumer.reassemblyBuf available
            panicked := false },
    { consumed := frames + available.length
      reassemblyBuf := batchReceiver.after consumer.reassemblyBuf available },
    ?_, rfl, rfl, ?_⟩
  · unfold TypedConsumer.processSnapshotBatch
    rw [stands.consumed, look]
    dsimp only
    rw [through]
    rfl
  · constructor
    · rw [seen]
      omega
    · exact reach
    · exact further

theorem StandsAmong.processes {session : Session Decoded Error}
    (stands : StandsAmong chunkSize messageIds messages frames session.consumer)
    (looks : List Nat)
    (decodes : ∀ message ∈ Receive.between chunkSize messages frames
        (seen chunkSize messages frames (publishedBy looks)),
      ∃ decoded, decode message.payload = .ok decoded) :
    StandsAmong chunkSize messageIds messages (seen chunkSize messages frames (publishedBy looks))
      (session.processed (session.consumer.processAvailable decode
        (framesFor chunkSize messageIds messages) looks)).consumer ∧
    (session.processed (session.consumer.processAvailable decode
        (framesFor chunkSize messageIds messages) looks)).reports =
      session.reports ++ (Receive.between chunkSize messages frames
        (seen chunkSize messages frames (publishedBy looks))).map (Report.of decode) := by
  induction looks generalizing session frames with
  | nil =>
      have still : seen chunkSize messages frames (publishedBy []) = frames := by
        rw [seen, publishedBy, List.foldr_nil, Nat.zero_min, Nat.max_eq_left (Nat.zero_le _)]
      rw [still, Receive.between_same, List.map_nil]
      exact ⟨stands, rfl⟩
  | cons upper looks ih =>
      have first : frames ≤ seen chunkSize messages frames upper := Nat.le_max_left _ _
      have second : seen chunkSize messages frames upper ≤
          seen chunkSize messages (seen chunkSize messages frames upper) (publishedBy looks) :=
        Nat.le_max_left _ _
      have whole : seen chunkSize messages frames (publishedBy (upper :: looks)) =
          seen chunkSize messages (seen chunkSize messages frames upper) (publishedBy looks) := by
        have published : publishedBy (upper :: looks) = max upper (publishedBy looks) := rfl
        rw [published]
        simp only [seen]
        omega
      rw [whole, ← Receive.between_append first second] at decodes
      obtain ⟨batch, after, processed, through, reports, behind⟩ :=
        stands.snapshot fun message member => decodes message (List.mem_append_left _ member)
      rw [processAvailable_goesOn processed through, whole,
        ← Receive.between_append first second]
      have between : StandsAmong chunkSize messageIds messages _
          (session.processed (batch.reports, after)).consumer := behind
      obtain ⟨stands, reported⟩ := ih between
        fun message member => decodes message (List.mem_append_right _ member)
      refine ⟨stands, ?_⟩
      rw [List.map_append, ← reports, ← List.append_assoc]
      exact reported

end Batches

/-! ### Calls for one message -/

section Calls

variable {frames : Nat} {session : Session Decoded Error} {call : Receive Decoded Error}

/-- What lies in front of a consumer: the rest of one message, and the others. -/
theorem drop_frames (messageIds : Nat → Nat) {message : Message}
    (found : messages[completeIn chunkSize messages frames]? = some message) :
    ∃ (run : Run chunkSize) (rest : List FrameMeta), run.Complete ∧ run.message = message ∧
      (framesFor chunkSize messageIds messages).drop frames =
        run.framesAfter (Receive.inside chunkSize messages frames) ++ rest := by
  obtain ⟨here, same⟩ := List.getElem?_eq_some_iff.mp found
  obtain ⟨later, left⟩ : ∃ later, (framesFor chunkSize messageIds messages).drop
      (framesOf chunkSize messages (completeIn chunkSize messages frames)) =
        stream (numberedRuns chunkSize later
          (messages.drop (completeIn chunkSize messages frames))) :=
    stream_drop messageIds messages (Nat.le_of_lt here)
  let run : Run chunkSize :=
    { messageId := later 0, message, emitted := frameCount chunkSize message.payload
      within := Nat.le_refl _ }
  have passed : framesOf chunkSize messages (completeIn chunkSize messages frames) ≤ frames :=
    framesOf_completeIn messages frames
  have ends : frames < framesOf chunkSize messages (completeIn chunkSize messages frames + 1) :=
    lt_framesOf_succ here
  rw [framesOf_succ found] at ends
  have inside : Receive.inside chunkSize messages frames ≤ run.frames.length := by
    rw [Run.frames_length, Receive.inside]
    change _ ≤ frameCount chunkSize message.payload
    omega
  have split : frames = framesOf chunkSize messages (completeIn chunkSize messages frames) +
      Receive.inside chunkSize messages frames := by
    rw [Receive.inside]
    omega
  refine ⟨run, framesFor chunkSize (fun index => later (index + 1))
    (messages.drop (completeIn chunkSize messages frames + 1)), rfl, rfl, ?_⟩
  rw [List.drop_eq_getElem_cons here, same, numberedRuns, stream_cons] at left
  conv_lhs => rw [split]
  rw [← List.drop_drop, left]
  change (run.frames ++ _).drop _ = _
  rw [List.drop_append_of_le_length inside, Run.frames_drop]

theorem commits_one (single : call.path.batches = false) :
    call.commits chunkSize messages frames =
      if completeIn chunkSize messages frames <
          completeIn chunkSize messages (publishedBy call.looks) then
        framesOf chunkSize messages (completeIn chunkSize messages frames + 1)
      else frames := by
  simp only [Receive.commits, single, Bool.false_eq_true, if_false]

theorem waits (single : call.path.batches = false)
    (silent : ownedReceiver.outputs none (((framesFor chunkSize messageIds messages).take
      (publishedBy call.looks)).drop session.consumer.consumed) = []) :
    session.receive (framesFor chunkSize messageIds messages) call = session := by
  cases path : call.path with
  | recvOwned =>
      simp only [Session.receive, path, Session.call, TypedConsumer.recvOwned,
        Transducer.next_none silent]
      rfl
  | recvLeased =>
      simp only [Session.receive, path, Session.call, TypedConsumer.recvLeased,
        leased_waits silent]
      rfl
  | processAvailable =>
      rw [path] at single
      cases single
  | processAvailableZeroCopy =>
      rw [path] at single
      cases single

theorem gets (positive : 0 < chunkSize) (single : call.path.batches = false)
    {run : Run chunkSize} {rest : List FrameMeta} {first count : Nat} (complete : run.Complete)
    (nonempty : first < run.emitted) (whole : run.emitted ≤ first + count)
    (ahead : ((framesFor chunkSize messageIds messages).take (publishedBy call.looks)).drop
      session.consumer.consumed = (run.framesAfter first ++ rest).take count) :
    ∃ buffer, session.receive (framesFor chunkSize messageIds messages) call =
      { consumer :=
          { consumed := session.consumer.consumed + (run.emitted - first)
            reassemblyBuf := buffer }
        reports := session.reports ++
          [Report.of call.decode (run.message.behind chunkSize first)] } := by
  cases path : call.path with
  | recvOwned =>
      refine ⟨session.consumer.reassemblyBuf, ?_⟩
      simp only [Session.receive, path, Session.call, TypedConsumer.recvOwned, ahead,
        owned_behind positive complete nonempty rest whole]
      rfl
  | recvLeased =>
      obtain ⟨⟨buffer, waiting⟩, next⟩ := leased_behind positive complete nonempty rest whole
        session.consumer.reassemblyBuf
      refine ⟨buffer, ?_⟩
      simp only [Session.receive, path, Session.call, TypedConsumer.recvLeased, ahead, next]
      rfl
  | processAvailable =>
      rw [path] at single
      cases single
  | processAvailableZeroCopy =>
      rw [path] at single
      cases single

theorem StandsAmong.receives (positive : 0 < chunkSize)
    (stands : StandsAmong chunkSize messageIds messages frames session.consumer)
    (single : call.path.batches = false) :
    StandsAmong chunkSize messageIds messages (call.commits chunkSize messages frames)
      (session.receive (framesFor chunkSize messageIds messages) call).consumer ∧
    (session.receive (framesFor chunkSize messageIds messages) call).reports =
      session.reports ++ (call.hands chunkSize messages frames).map (Report.of call.decode) := by
  have look : ((framesFor chunkSize messageIds messages).take (publishedBy call.looks)).drop
      session.consumer.consumed = ((framesFor chunkSize messageIds messages).drop frames).take
        (publishedBy call.looks - frames) := by
    rw [stands.consumed, List.drop_take]
  have still (idle : call.commits chunkSize messages frames = frames)
      (silent : ownedReceiver.outputs none (((framesFor chunkSize messageIds messages).take
        (publishedBy call.looks)).drop session.consumer.consumed) = []) :
      StandsAmong chunkSize messageIds messages (call.commits chunkSize messages frames)
        (session.receive (framesFor chunkSize messageIds messages) call).consumer ∧
      (session.receive (framesFor chunkSize messageIds messages) call).reports =
        session.reports ++ (call.hands chunkSize messages frames).map
          (Report.of call.decode) := by
    rw [waits single silent, Receive.hands, idle, Receive.between_same, List.map_nil, ite_self,
      List.map_nil, List.append_nil]
    exact ⟨stands, rfl⟩
  have passed : framesOf chunkSize messages (completeIn chunkSize messages frames) ≤ frames :=
    framesOf_completeIn messages frames
  cases found : messages[completeIn chunkSize messages frames]? with
  | none =>
      have last := List.getElem?_eq_none_iff.mp found
      have all : completeIn chunkSize messages frames ≤ messages.length :=
        completeIn_le messages frames
      have bound : completeIn chunkSize messages (publishedBy call.looks) ≤ messages.length :=
        completeIn_le messages _
      have same : completeIn chunkSize messages frames = messages.length := by omega
      apply still
      · rw [commits_one single]
        exact if_neg (by omega)
      · rw [same] at passed
        rw [look, List.drop_eq_nil_of_le (by rw [framesFor_length]; exact passed), List.take_nil]
        rfl
  | some message =>
      obtain ⟨here, _⟩ := List.getElem?_eq_some_iff.mp found
      obtain ⟨run, rest, complete, same, ahead⟩ := drop_frames messageIds found
      rw [ahead] at look
      have ends : framesOf chunkSize messages (completeIn chunkSize messages frames + 1) = _ :=
        framesOf_succ found
      have beyond : frames < _ := lt_framesOf_succ here
      have emitted : run.emitted = frameCount chunkSize message.payload := by
        rw [← same]
        exact complete
      have offset : frames = framesOf chunkSize messages (completeIn chunkSize messages frames) +
          Receive.inside chunkSize messages frames := by
        rw [Receive.inside]
        omega
      by_cases whole : completeIn chunkSize messages frames <
          completeIn chunkSize messages (publishedBy call.looks)
      · have published : framesOf chunkSize messages
            (completeIn chunkSize messages frames + 1) ≤ publishedBy call.looks :=
          (le_completeIn_iff here).mp (Nat.succ_le_of_lt whole)
        have commits : call.commits chunkSize messages frames =
            framesOf chunkSize messages (completeIn chunkSize messages frames + 1) := by
          rw [commits_one single]
          exact if_pos whole
        have handed : call.hands chunkSize messages frames =
            [message.behind chunkSize (Receive.inside chunkSize messages frames)] := by
          rw [Receive.hands, single, commits, Receive.between, completeIn_framesOf here,
            List.take_add_one, found, List.drop_append_of_le_length (by
              rw [List.length_take]; omega), List.drop_eq_nil_of_le (by
              rw [List.length_take]; omega)]
          rfl
        have nonempty : Receive.inside chunkSize messages frames < run.emitted := by
          rw [emitted]
          omega
        have reaches : run.emitted ≤ Receive.inside chunkSize messages frames +
            (publishedBy call.looks - frames) := by
          rw [emitted]
          omega
        obtain ⟨buffer, received⟩ := gets positive single complete nonempty reaches look
        rw [received, handed, same]
        refine ⟨⟨?_, ?_, ?_⟩, rfl⟩
        · rw [commits, ← le_completeIn_iff here, completeIn_framesOf (Nat.le_refl _)]
          exact here
        · rw [commits, stands.consumed]
          change frames + _ = _
          omega
        · rw [commits]
          exact fits_framesOf positive here buffer
      · apply still
        · rw [commits_one single]
          exact if_neg whole
        · rw [look]
          apply owned_behind_silent complete rest
          have short : ¬ framesOf chunkSize messages (completeIn chunkSize messages frames + 1) ≤
              publishedBy call.looks :=
            (le_completeIn_iff here).mpr.mt fun more => whole (Nat.lt_of_succ_le more)
          omega

theorem StandsAmong.receivesBatch
    (stands : StandsAmong chunkSize messageIds messages frames session.consumer)
    (batches : call.path.batches = true)
    (decodes : Decodes call.decode messages chunkSize call.looks) :
    StandsAmong chunkSize messageIds messages (call.commits chunkSize messages frames)
      (session.receive (framesFor chunkSize messageIds messages) call).consumer ∧
    (session.receive (framesFor chunkSize messageIds messages) call).reports =
      session.reports ++ (call.hands chunkSize messages frames).map (Report.of call.decode) := by
  have commits : call.commits chunkSize messages frames =
      seen chunkSize messages frames (publishedBy call.looks) := by
    rw [Receive.commits, batches]
    rfl
  have hands : call.hands chunkSize messages frames = Receive.between chunkSize messages frames
      (seen chunkSize messages frames (publishedBy call.looks)) := by
    rw [Receive.hands, batches, commits]
    rfl
  rw [Session.receive, call_batches batches, commits, hands]
  apply stands.processes
  intro message member
  apply decodes message
  rcases Nat.le_total (publishedBy call.looks) frames with behind | ahead
  · have still : seen chunkSize messages frames (publishedBy call.looks) = frames := by
      rw [seen]
      omega
    rw [still, Receive.between_same] at member
    cases member
  · have within := stands.within
    have most : seen chunkSize messages frames (publishedBy call.looks) ≤
        publishedBy call.looks := by
      rw [seen]
      omega
    exact (List.take_prefix_take_left (completeIn_mono messages most)).subset
      (List.mem_of_mem_drop member)

/-- What a call does to a session, whichever way it receives. -/
theorem StandsAmong.goesOn (positive : 0 < chunkSize)
    (stands : StandsAmong chunkSize messageIds messages frames session.consumer)
    (decodes : call.path.batches = true → Decodes call.decode messages chunkSize call.looks) :
    StandsAmong chunkSize messageIds messages (call.commits chunkSize messages frames)
      (session.receive (framesFor chunkSize messageIds messages) call).consumer ∧
    (session.receive (framesFor chunkSize messageIds messages) call).reports =
      session.reports ++ (call.hands chunkSize messages frames).map (Report.of call.decode) := by
  cases batches : call.path.batches with
  | false => exact stands.receives positive batches
  | true => exact stands.receivesBatch batches (decodes batches)

end Calls

/-! ### Whole sessions of calls -/

section Sessions

variable {calls : List (Receive Decoded Error)} {call : Receive Decoded Error}
variable {frames later : Nat}

theorem le_commits (call : Receive Decoded Error) (messages : List Message) (frames : Nat) :
    frames ≤ call.commits chunkSize messages frames := by
  cases batches : call.path.batches with
  | true =>
      rw [Receive.commits, batches]
      exact Nat.le_max_left _ _
  | false =>
      rw [commits_one batches]
      split
      · rename_i more
        have bound : completeIn chunkSize messages (publishedBy call.looks) ≤ messages.length :=
          completeIn_le messages _
        exact Nat.le_of_lt (lt_framesOf_succ (Nat.lt_of_lt_of_le more bound))
      · exact Nat.le_refl frames

theorem between_one (single : call.path.batches = false)
    (further : frames < call.commits chunkSize messages frames) :
    ∃ message, messages[completeIn chunkSize messages frames]? = some message ∧
      Receive.between chunkSize messages frames (call.commits chunkSize messages frames) =
        [message] := by
  rw [commits_one single] at further ⊢
  split at further
  · rename_i more
    have bound : completeIn chunkSize messages (publishedBy call.looks) ≤ messages.length :=
      completeIn_le messages _
    have here : completeIn chunkSize messages frames < messages.length := by omega
    refine ⟨_, List.getElem?_eq_getElem here, ?_⟩
    have one : completeIn chunkSize messages frames + 1 -
        completeIn chunkSize messages frames = 1 :=
      Nat.add_sub_cancel_left _ 1
    rw [if_pos more, Receive.between, completeIn_framesOf here, List.drop_take, one,
      List.drop_eq_getElem_cons here]
    rfl
  · exact absurd further (Nat.lt_irrefl frames)

theorem Message.behind_eq_iff (positive : 0 < chunkSize) {message : Message} {count : Nat}
    (short : count < frameCount chunkSize message.payload) :
    message.behind chunkSize count = message ↔ count = 0 := by
  constructor
  · intro same
    have length : message.payload.length - count * chunkSize = message.payload.length := by
      rw [← List.length_drop]
      exact congrArg (fun message => message.payload.length) same
    cases count with
    | zero => rfl
    | succ before =>
        have more : ¬ message.payload.length ≤ (before + 1) * chunkSize := by
          rw [reaches_end positive (Nat.lt_of_succ_lt short)]
          exact Nat.ne_of_lt short
        have some : 0 < (before + 1) * chunkSize := Nat.mul_pos (Nat.succ_pos before) positive
        omega
  · intro none
    subst none
    exact message.behind_none

theorem inside_lt {message : Message}
    (found : messages[completeIn chunkSize messages frames]? = some message) :
    Receive.inside chunkSize messages frames < frameCount chunkSize message.payload := by
  have ends : frames < framesOf chunkSize messages (completeIn chunkSize messages frames + 1) :=
    lt_framesOf_succ (List.getElem?_eq_some_iff.mp found).1
  rw [framesOf_succ found] at ends
  have passed : framesOf chunkSize messages (completeIn chunkSize messages frames) ≤ frames :=
    framesOf_completeIn messages frames
  rw [Receive.inside]
  omega

theorem hands_whole_iff (positive : 0 < chunkSize) :
    call.hands chunkSize messages frames =
        Receive.between chunkSize messages frames (call.commits chunkSize messages frames) ↔
      ¬ call.Severs chunkSize messages frames := by
  cases batches : call.path.batches with
  | true =>
      rw [Receive.hands, batches]
      constructor
      · intro _ severs
        exact Bool.noConfusion (severs.1.symm.trans batches)
      · intro _
        rfl
  | false =>
      rcases Nat.eq_or_lt_of_le (le_commits call messages frames) with idle | further
      · rw [Receive.hands, ← idle, Receive.between_same, List.map_nil, ite_self]
        constructor
        · intro _ severs
          exact Nat.ne_of_lt severs.2.2 idle
        · intro _
          rfl
      · obtain ⟨message, found, ended⟩ := between_one batches further
        have whole := Message.behind_eq_iff positive (inside_lt found)
        rw [Receive.hands, batches, ended]
        change [message.behind chunkSize _] = [message] ↔ _
        rw [List.cons.injEq, and_iff_left rfl, whole]
        constructor
        · intro none severs
          exact Nat.ne_of_gt severs.2.1 none
        · intro spared
          exact Nat.eq_zero_of_not_pos fun inside => spared ⟨batches, inside, further⟩

theorem hands_length (call : Receive Decoded Error) (messages : List Message) (frames : Nat) :
    (call.hands chunkSize messages frames).length =
      (Receive.between chunkSize messages frames
        (call.commits chunkSize messages frames)).length := by
  cases batches : call.path.batches with
  | true => rw [Receive.hands, batches]; rfl
  | false => rw [Receive.hands, batches]; exact List.length_map _

theorem between_complete (further : frames ≤ later) :
    messages.take (completeIn chunkSize messages frames) ++
        Receive.between chunkSize messages frames later =
      messages.take (completeIn chunkSize messages later) := by
  have mono : completeIn chunkSize messages frames ≤ completeIn chunkSize messages later :=
    completeIn_mono messages further
  have split := List.take_append_drop (completeIn chunkSize messages frames)
    (messages.take (completeIn chunkSize messages later))
  rw [List.take_take, Nat.min_eq_left mono] at split
  exact split

theorem between_length (further : frames ≤ later) :
    completeIn chunkSize messages frames +
        (Receive.between chunkSize messages frames later).length =
      completeIn chunkSize messages later := by
  have whole : (messages.take (completeIn chunkSize messages frames) ++
      Receive.between chunkSize messages frames later).length = _ :=
    congrArg List.length (between_complete further)
  rw [List.length_append, List.length_take, List.length_take,
    Nat.min_eq_left (completeIn_le messages _), Nat.min_eq_left (completeIn_le messages _)] at whole
  exact whole

structure Delivers (chunkSize : Nat) (messageIds : Nat → Nat)
    (expect : Message → Report Decoded Error) (messages : List Message)
    (session : Session Decoded Error) : Prop where
  stands : StandsAmong chunkSize messageIds messages session.consumer.consumed session.consumer
  reports : session.reports =
    (messages.take (completeIn chunkSize messages session.consumer.consumed)).map expect

variable {expect : Message → Report Decoded Error} {session : Session Decoded Error}

theorem completeIn_zero (messages : List Message) : completeIn chunkSize messages 0 = 0 := by
  cases messages with
  | nil => rfl
  | cons message rest =>
      have positive := frameCount_pos chunkSize message.payload
      rw [completeIn, if_neg (by omega)]

theorem delivers_new (positive : 0 < chunkSize) (messageIds : Nat → Nat) (messages : List Message)
    (expect : Message → Report Decoded Error) :
    Delivers chunkSize messageIds expect messages Session.new where
  stands := standsAmong_new positive messageIds messages
  reports := by
    change [] = (messages.take (completeIn chunkSize messages 0)).map expect
    rw [completeIn_zero]
    rfl

theorem Delivers.receive (positive : 0 < chunkSize)
    (delivers : Delivers chunkSize messageIds expect messages session)
    (same : ∀ message ∈ messages, Report.of call.decode message = expect message)
    (decodes : call.path.batches = true → Decodes call.decode messages chunkSize call.looks)
    (spares : ¬ call.Severs chunkSize messages session.consumer.consumed) :
    Delivers chunkSize messageIds expect messages
      (session.receive (framesFor chunkSize messageIds messages) call) := by
  obtain ⟨stands, reports⟩ := delivers.stands.goesOn positive decodes
  have commits := stands.consumed
  have expected (first second : Nat) :
      (Receive.between chunkSize messages first second).map (Report.of call.decode) =
        (Receive.between chunkSize messages first second).map expect := by
    apply List.map_congr_left
    intro message member
    exact same message (List.mem_of_mem_take (List.mem_of_mem_drop member))
  rw [(hands_whole_iff positive).mpr spares, delivers.reports, expected, ← List.map_append,
    between_complete (le_commits call messages _), ← commits] at reports
  rw [← commits] at stands
  exact ⟨stands, reports⟩

theorem receive_grows (items : List FrameMeta) (session : Session Decoded Error)
    (call : Receive Decoded Error) :
    session.reports <+: (session.receive items call).reports := by
  have received (answer : Option (Report Decoded Error × TypedConsumer)) :
      session.reports <+: (session.received answer).reports := by
    cases answer with
    | none => exact List.prefix_rfl
    | some answer => exact List.prefix_append _ _
  cases path : call.path with
  | recvOwned =>
      rw [Session.receive, path]
      exact received _
  | recvLeased =>
      rw [Session.receive, path]
      exact received _
  | processAvailable =>
      rw [Session.receive, path]
      exact List.prefix_append _ _
  | processAvailableZeroCopy =>
      rw [Session.receive, path]
      exact List.prefix_append _ _

theorem receives_grow (items : List FrameMeta) (session : Session Decoded Error)
    (calls : List (Receive Decoded Error)) :
    session.reports <+: (calls.foldl (Session.receive items) session).reports := by
  induction calls generalizing session with
  | nil => exact List.prefix_rfl
  | cons call later ih => exact (receive_grows items session call).trans (ih _)

/-- Of every message that ends in the frames that are committed, something was reported, once. -/
theorem StandsAmong.counts (positive : 0 < chunkSize)
    (stands : StandsAmong chunkSize messageIds messages session.consumer.consumed session.consumer)
    (counted : session.reports.length = completeIn chunkSize messages session.consumer.consumed)
    (decodes : ∀ call ∈ calls, call.path.batches = true →
      Decodes call.decode messages chunkSize call.looks) :
    let after := calls.foldl (Session.receive (framesFor chunkSize messageIds messages)) session
    after.reports.length = completeIn chunkSize messages after.consumer.consumed := by
  induction calls generalizing session with
  | nil => exact counted
  | cons call later ih =>
      obtain ⟨further, reports⟩ := stands.goesOn positive (decodes call List.mem_cons_self)
      have commits := further.consumed
      rw [← commits] at further
      apply ih further
      · rw [reports, List.length_append, List.length_map, hands_length, counted, commits]
        exact between_length (le_commits call messages _)
      · exact fun other member => decodes other (List.mem_cons_of_mem _ member)

def NoneSevers (chunkSize : Nat) (messages : List Message) (items : List FrameMeta) :
    Session Decoded Error → List (Receive Decoded Error) → Prop
  | _, [] => True
  | session, call :: later =>
      ¬ call.Severs chunkSize messages session.consumer.consumed ∧
        NoneSevers chunkSize messages items (session.receive items call) later

instance (items : List FrameMeta) (session : Session Decoded Error)
    (calls : List (Receive Decoded Error)) :
    Decidable (NoneSevers chunkSize messages items session calls) :=
  match calls with
  | [] => inferInstanceAs (Decidable True)
  | call :: later =>
      have := instDecidableNoneSevers items (session.receive items call) later
      inferInstanceAs (Decidable (_ ∧ _))

theorem Delivers.receives (positive : 0 < chunkSize)
    (delivers : Delivers chunkSize messageIds expect messages session)
    (same : ∀ call ∈ calls, ∀ message ∈ messages, Report.of call.decode message = expect message)
    (decodes : ∀ call ∈ calls, call.path.batches = true →
      Decodes call.decode messages chunkSize call.looks)
    (spares : NoneSevers chunkSize messages (framesFor chunkSize messageIds messages) session
      calls) :
    Delivers chunkSize messageIds expect messages
      (calls.foldl (Session.receive (framesFor chunkSize messageIds messages)) session) := by
  induction calls generalizing session with
  | nil => exact delivers
  | cons call later ih =>
      apply ih
      · exact delivers.receive positive (same call List.mem_cons_self)
          (decodes call List.mem_cons_self) spares.1
      · exact fun other member => same other (List.mem_cons_of_mem _ member)
      · exact fun other member => decodes other (List.mem_cons_of_mem _ member)
      · exact spares.2

end Sessions

/-! ### Messages as they are -/

section Raw

variable {Error : Type} {session : Session (List UInt8) Error} {call : Receive (List UInt8) Error}
variable {calls : List (Receive (List UInt8) Error)}

/-- A call of the consumer below, which hands over the bytes. -/
def Receive.raw (path : ReceivePath) (looks : List Nat) : Receive (List UInt8) Error :=
  { path, decode := .ok, looks }

/-- What has been handed over are the first messages, as they were published. -/
def Whole (messages : List Message) (session : Session (List UInt8) Error) : Prop :=
  ∃ count, session.reports = (messages.take count).map (Report.of .ok)

theorem Whole.earlier {earlier : Session (List UInt8) Error} (whole : Whole messages session)
    (grown : earlier.reports <+: session.reports) : Whole messages earlier := by
  obtain ⟨count, all⟩ := whole
  refine ⟨min earlier.reports.length count, ?_⟩
  have start := List.prefix_iff_eq_take.mp grown
  rw [all, ← List.map_take, List.take_take] at start
  exact start

/-- The message that a call severs is not handed over as it was published. -/
theorem Delivers.severed (positive : 0 < chunkSize)
    (delivers : Delivers chunkSize messageIds (Report.of .ok) messages session)
    (same : call.decode = .ok)
    (severs : call.Severs chunkSize messages session.consumer.consumed) :
    ¬ Whole messages (session.receive (framesFor chunkSize messageIds messages) call) := by
  obtain ⟨single, inside, further⟩ := severs
  obtain ⟨message, found, ended⟩ := between_one single further
  have here := (List.getElem?_eq_some_iff.mp found).1
  have reports := (delivers.stands.receives positive single).2
  rw [Receive.hands, single, ended, delivers.reports, same] at reports
  intro whole
  obtain ⟨count, all⟩ := whole
  -- The message that was severed is the last that is handed over.
  have last := congrArg (fun reports => reports[completeIn chunkSize messages
    session.consumer.consumed]?) (reports.symm.trans all)
  have length : ((messages.take (completeIn chunkSize messages session.consumer.consumed)).map
      (Report.of (.ok : Decoder (List UInt8) Error))).length =
        completeIn chunkSize messages session.consumer.consumed := by
    rw [List.length_map, List.length_take, Nat.min_eq_left (Nat.le_of_lt here)]
  simp only [Bool.false_eq_true, if_false, List.map_cons, List.map_nil] at last
  rw [List.getElem?_append_right (Nat.le_of_eq length), length, Nat.sub_self,
    List.getElem?_cons_zero, List.getElem?_map, List.getElem?_take] at last
  split at last
  · rw [found] at last
    have payload : (message.behind chunkSize _).payload = message.payload :=
      (Report.delivered.inj (Option.some.inj last)).2
    have unchanged : message.behind chunkSize _ = message :=
      congrArg (fun payload => { message with payload }) payload
    rw [Message.behind_eq_iff positive (inside_lt found)] at unchanged
    exact Nat.ne_of_gt inside unchanged
  · cases last

theorem receiveAll_whole_iff (positive : 0 < chunkSize)
    (delivers : Delivers chunkSize messageIds (Report.of .ok) messages session)
    (same : ∀ call ∈ calls, call.decode = .ok) :
    Whole messages
        (calls.foldl (Session.receive (framesFor chunkSize messageIds messages)) session) ↔
      NoneSevers chunkSize messages (framesFor chunkSize messageIds messages) session calls := by
  induction calls generalizing session with
  | nil =>
      constructor
      · exact fun _ => trivial
      · exact fun _ => ⟨_, delivers.reports⟩
  | cons call later ih =>
      have others : ∀ other ∈ later, other.decode = .ok :=
        fun other member => same other (List.mem_cons_of_mem _ member)
      have here := same call List.mem_cons_self
      by_cases severs : call.Severs chunkSize messages session.consumer.consumed
      · constructor
        · intro whole
          exact absurd (whole.earlier (receives_grow _ _ later))
            (delivers.severed positive here severs)
        · exact fun spares => absurd severs spares.1
      · have next := delivers.receive positive (fun _ _ => by rw [here])
          (fun _ _ _ => ⟨_, by rw [here]⟩) severs
        constructor
        · exact fun whole => ⟨severs, (ih next others).mp whole⟩
        · exact fun spares => (ih next others).mpr spares.2

end Raw

/-- Whatever the slots held before and wherever the counter of message ids stands: a consumer
that receives in every way gets the messages as they were published, if and only if no call for
one message is made inside of a message. However that may be, it gets something of each message
whose frames it has consumed, and once. -/
def ReceivesMixed (F : Type) [FramedTransportFrame F] (messages : List Message)
    (calls : List (ReceivePath × List Nat)) : Prop :=
  ∀ (messageId : Nat) (old : Nat → F), ∃ frames metas,
    publishAll old messageId messages = some frames ∧ frameMetas frames = some metas ∧
    let raw : List (Receive (List UInt8) Empty) := calls.map fun call => .raw call.1 call.2
    let session := Session.receiveAll metas raw
    (Whole messages session ↔
      NoneSevers (FramedTransportFrame.payloadCapacity F) messages metas .new raw) ∧
    session.reports.length =
      completeIn (FramedTransportFrame.payloadCapacity F) messages session.consumer.consumed

theorem receivesMixed_of_carries {F : Type} [FramedTransportFrame F] (carries : Carries F)
    (positive : 0 < FramedTransportFrame.payloadCapacity F) (messages : List Message)
    (calls : List (ReceivePath × List Nat)) : ReceivesMixed F messages calls := by
  intro messageId old
  obtain ⟨frames, published, shown⟩ := publishAll_shows old carries positive messageId messages
  refine ⟨frames, _, published, shown, ?_, ?_⟩
  · apply receiveAll_whole_iff positive (delivers_new positive (idsFrom messageId) messages _)
    intro call member
    obtain ⟨asked, _, rfl⟩ := List.mem_map.mp member
    rfl
  · have start := delivers_new positive (idsFrom messageId) messages
      (Report.of (.ok : Decoder (List UInt8) Empty))
    apply start.stands.counts positive
    · rw [start.reports, List.length_map, List.length_take,
        Nat.min_eq_left (completeIn_le messages _)]
    · intro call member _ _ _
      obtain ⟨asked, _, rfl⟩ := List.mem_map.mp member
      exact ⟨_, rfl⟩

/-- Calls of every kind on one consumer get the messages as they were published, if and only if
none of those for one message is made inside of a message. -/
theorem mixed_calls_whole_iff (dataBytes : Nat) (positive : 1 ≤ dataBytes)
    (bounded : dataBytes < 2 ^ 32) (messages : List Message)
    (calls : List (ReceivePath × List Nat)) :
    ReceivesMixed (FixedFrame dataBytes) messages calls ∧
      ReceivesMixed (AlignedFixedFrame dataBytes) messages calls := by
  constructor
  · exact receivesMixed_of_carries (fixedFrame_carries bounded) positive messages calls
  · exact receivesMixed_of_carries (alignedFixedFrame_carries bounded) positive messages calls

/-- A batch call stops inside of the second message, and the next call takes the rest of it. -/
theorem mixed_calls_whole_iff_severed :
    ReceivesMixed (FixedFrame 2) [⟨1, [10]⟩, ⟨2, [11, 12, 13]⟩]
        [(.processAvailable, [2]), (.recvOwned, [3])] ∧
      ReceivesMixed (AlignedFixedFrame 2) [⟨1, [10]⟩, ⟨2, [11, 12, 13]⟩]
        [(.processAvailable, [2]), (.recvOwned, [3])] :=
  mixed_calls_whole_iff 2 (by decide) (by decide) _ _

example : (Session.receiveAll (framesFor 2 0 [⟨1, [10]⟩, ⟨2, [11, 12, 13]⟩])
    [(.raw .processAvailable [2] : Receive (List UInt8) Empty), .raw .recvOwned [3]]).reports =
      [.delivered 1 [10], .delivered 2 [13]] := by
  decide

end Framing
