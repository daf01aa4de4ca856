/-
The four loops that cut a payload into frames, with the arithmetic of the machine.

Each of them computes the last flag from a product, which panics where it exceeds the
range of `usize`. For a payload that fits into memory it never does, and then the four
are one loop over the frames of the plain definition.
-/

import Myelon.Framing.Tape

namespace Framing

universe u

def usizeMax : Nat := 2 ^ 64 - 1

def isizeMax : Nat := 2 ^ 63 - 1

namespace Checked

section Publish

variable {m : Type → Type u} [Monad m] [Panics m] {T ε : Type}

def mulUsize (left right : Nat) : m Nat :=
  if left * right ≤ usizeMax then pure (left * right) else Panics.panics

def publishFramedPayload (nextMessageId : m Nat) (payload : List UInt8) (kind : UInt8)
    (chunkSize : Nat) (writeFrame : T → m Unit)
    (makeFrame : List UInt8 → UInt8 → Nat → UInt8 → m T) : m Unit := do
  let msgId ← nextMessageId
  if payload.isEmpty then
    let frame ← makeFrame payload kind msgId (frameFlags true true)
    writeFrame frame
  else
    checkChunks payload chunkSize
    forEach (fun (chunk, index) => do
      let reached ← mulUsize (index + 1) chunkSize
      let last := decide (reached ≥ payload.length)
      let flags := frameFlags (index == 0) last
      let frame ← makeFrame chunk kind msgId flags
      writeFrame frame) (chunks chunkSize payload).zipIdx

def publishFramedPayloadInPlace (nextMessageId : m Nat) (payload : List UInt8) (kind : UInt8)
    (chunkSize : Nat) (writeFrame : List UInt8 → UInt8 → Nat → UInt8 → m Unit) : m Unit := do
  let msgId ← nextMessageId
  if payload.isEmpty then
    writeFrame payload kind msgId (frameFlags true true)
  else
    checkChunks payload chunkSize
    forEach (fun (chunk, index) => do
      let reached ← mulUsize (index + 1) chunkSize
      let last := decide (reached ≥ payload.length)
      let flags := frameFlags (index == 0) last
      writeFrame chunk kind msgId flags) (chunks chunkSize payload).zipIdx

def publishFramedPayloadResult (nextMessageId : m Nat) (payload : List UInt8) (kind : UInt8)
    (chunkSize : Nat) (writeFrame : T → m (Except ε Unit))
    (makeFrame : List UInt8 → UInt8 → Nat → UInt8 → m T) : m (Except ε Unit) := do
  let msgId ← nextMessageId
  if payload.isEmpty then
    let frame ← makeFrame payload kind msgId (frameFlags true true)
    writeFrame frame
  else
    checkChunks payload chunkSize
    tryEach (fun (chunk, index) => do
      let reached ← mulUsize (index + 1) chunkSize
      let last := decide (reached ≥ payload.length)
      let flags := frameFlags (index == 0) last
      let frame ← makeFrame chunk kind msgId flags
      writeFrame frame) (chunks chunkSize payload).zipIdx

def publishFramedPayloadResultInPlace (nextMessageId : m Nat) (payload : List UInt8)
    (kind : UInt8) (chunkSize : Nat)
    (writeFrame : List UInt8 → UInt8 → Nat → UInt8 → m (Except ε Unit)) :
    m (Except ε Unit) := do
  let msgId ← nextMessageId
  if payload.isEmpty then
    writeFrame payload kind msgId (frameFlags true true)
  else
    checkChunks payload chunkSize
    tryEach (fun (chunk, index) => do
      let reached ← mulUsize (index + 1) chunkSize
      let last := decide (reached ≥ payload.length)
      let flags := frameFlags (index == 0) last
      writeFrame chunk kind msgId flags) (chunks chunkSize payload).zipIdx

end Publish

/-! ### The product stays in range -/

variable {chunkSize : Nat} {payload : List UInt8}

theorem reached_within (slice : payload.length ≤ isizeMax) (word : chunkSize ≤ usizeMax)
    {index : Nat} (within : index < frameCount chunkSize payload) :
    (index + 1) * chunkSize ≤ usizeMax := by
  rcases Nat.eq_zero_or_pos index with zero | later
  · rw [zero, Nat.zero_add, Nat.one_mul]
    exact word
  · have counted : index + 1 ≤ (payload.length + chunkSize - 1) / chunkSize := by
      unfold frameCount at within
      omega
    have all : (index + 1) * chunkSize ≤ payload.length + chunkSize - 1 :=
      Nat.le_trans (Nat.mul_le_mul_right chunkSize counted) (Nat.div_mul_le_self _ _)
    have twice : 2 * chunkSize ≤ (index + 1) * chunkSize :=
      Nat.mul_le_mul_right _ (by omega)
    unfold isizeMax at slice
    unfold usizeMax
    omega

/-! ### One loop over the plain frames -/

section Loops

variable {m : Type → Type u} [Monad m] {ε α β : Type}

theorem forEach_map {first : β → m Unit} {second : α → m Unit} {form : α → β} {items : List α}
    (same : ∀ item ∈ items, first (form item) = second item) :
    forEach first (items.map form) = forEach second items := by
  induction items with
  | nil => rfl
  | cons item rest ih =>
    rw [List.map_cons, forEach, forEach, same item List.mem_cons_self,
      ih fun other member => same other (List.mem_cons_of_mem _ member)]

theorem tryEach_map {first : β → m (Except ε Unit)} {second : α → m (Except ε Unit)}
    {form : α → β} {items : List α}
    (same : ∀ item ∈ items, first (form item) = second item) :
    tryEach first (items.map form) = tryEach second items := by
  induction items with
  | nil => rfl
  | cons item rest ih =>
    rw [List.map_cons, tryEach, tryEach, same item List.mem_cons_self,
      ih fun other member => same other (List.mem_cons_of_mem _ member)]

variable [LawfulMonad m]

theorem forEach_singleton (body : α → m Unit) (item : α) : forEach body [item] = body item :=
  bind_pure_unit

theorem tryEach_singleton (body : α → m (Except ε Unit)) (item : α) :
    tryEach body [item] = body item := by
  have kept : tryEach body [item] = body item >>= pure := by
    rw [tryEach]
    apply bind_congr
    intro result
    cases result with
    | ok value => rfl
    | error error => rfl
  rw [kept, bind_pure]

end Loops

section Plain

variable {m : Type → Type u} [Monad m] [Panics m] {T ε : Type}

theorem checkChunks_positive (positive : 0 < chunkSize) (payload : List UInt8) :
    (checkChunks payload chunkSize : m Unit) = pure () :=
  if_neg fun zero => Nat.ne_of_gt positive zero.2

theorem mulUsize_chunk (slice : payload.length ≤ isizeMax) (word : chunkSize ≤ usizeMax)
    {item : List UInt8 × Nat} (member : item ∈ (chunks chunkSize payload).zipIdx) :
    (mulUsize (item.2 + 1) chunkSize : m Nat) = pure ((item.2 + 1) * chunkSize) :=
  if_pos (reached_within slice word (by
    have inside := List.snd_lt_of_mem_zipIdx member
    rw [chunks, List.length_map, List.length_range] at inside
    exact Nat.lt_of_lt_of_le inside (Nat.le_max_right _ _)))

variable [LawfulMonad m] (slice : payload.length ≤ isizeMax) (positive : 0 < chunkSize)
  (word : chunkSize ≤ usizeMax) (nextMessageId : m Nat) (kind : UInt8)

include slice positive word

theorem forEach_frames (body : FrameWrite → m Unit) (msgId : Nat) :
    (if payload.isEmpty then
        body { chunk := payload, kind, msgId, flags := frameFlags true true }
      else do
        checkChunks payload chunkSize
        forEach (fun (chunk, index) => do
          let reached ← mulUsize (index + 1) chunkSize
          let last := decide (reached ≥ payload.length)
          body { chunk, kind, msgId, flags := frameFlags (index == 0) last })
          (chunks chunkSize payload).zipIdx) =
      forEach body (frameWrites payload kind chunkSize msgId) := by
  by_cases empty : payload.isEmpty
  · rw [if_pos empty, frameWrites, if_pos empty, forEach_singleton]
  · rw [if_neg empty, frameWrites, if_neg empty, checkChunks_positive positive, pure_bind]
    symm
    apply forEach_map
    intro item member
    dsimp only
    rw [mulUsize_chunk slice word member, pure_bind]

theorem tryEach_frames (body : FrameWrite → m (Except ε Unit)) (msgId : Nat) :
    (if payload.isEmpty then
        body { chunk := payload, kind, msgId, flags := frameFlags true true }
      else do
        checkChunks payload chunkSize
        tryEach (fun (chunk, index) => do
          let reached ← mulUsize (index + 1) chunkSize
          let last := decide (reached ≥ payload.length)
          body { chunk, kind, msgId, flags := frameFlags (index == 0) last })
          (chunks chunkSize payload).zipIdx) =
      tryEach body (frameWrites payload kind chunkSize msgId) := by
  by_cases empty : payload.isEmpty
  · rw [if_pos empty, frameWrites, if_pos empty, tryEach_singleton]
  · rw [if_neg empty, frameWrites, if_neg empty, checkChunks_positive positive, pure_bind]
    symm
    apply tryEach_map
    intro item member
    dsimp only
    rw [mulUsize_chunk slice word member, pure_bind]

theorem publishFramedPayload_eq (writeFrame : T → m Unit)
    (makeFrame : List UInt8 → UInt8 → Nat → UInt8 → m T) :
    publishFramedPayload nextMessageId payload kind chunkSize writeFrame makeFrame =
      nextMessageId >>= fun msgId => forEach (fun write : FrameWrite =>
        makeFrame write.chunk write.kind write.msgId write.flags >>= writeFrame)
        (frameWrites payload kind chunkSize msgId) := by
  apply bind_congr
  intro msgId
  exact forEach_frames slice positive word kind (fun write =>
    makeFrame write.chunk write.kind write.msgId write.flags >>= writeFrame) msgId

theorem publishFramedPayloadInPlace_eq
    (writeFrame : List UInt8 → UInt8 → Nat → UInt8 → m Unit) :
    publishFramedPayloadInPlace nextMessageId payload kind chunkSize writeFrame =
      nextMessageId >>= fun msgId => forEach (fun write : FrameWrite =>
        writeFrame write.chunk write.kind write.msgId write.flags)
        (frameWrites payload kind chunkSize msgId) := by
  apply bind_congr
  intro msgId
  exact forEach_frames slice positive word kind
    (fun write => writeFrame write.chunk write.kind write.msgId write.flags) msgId

theorem publishFramedPayloadResult_eq (writeFrame : T → m (Except ε Unit))
    (makeFrame : List UInt8 → UInt8 → Nat → UInt8 → m T) :
    publishFramedPayloadResult nextMessageId payload kind chunkSize writeFrame makeFrame =
      nextMessageId >>= fun msgId => tryEach (fun write : FrameWrite =>
        makeFrame write.chunk write.kind write.msgId write.flags >>= writeFrame)
        (frameWrites payload kind chunkSize msgId) := by
  apply bind_congr
  intro msgId
  exact tryEach_frames slice positive word kind (fun write =>
    makeFrame write.chunk write.kind write.msgId write.flags >>= writeFrame) msgId

theorem publishFramedPayloadResultInPlace_eq
    (writeFrame : List UInt8 → UInt8 → Nat → UInt8 → m (Except ε Unit)) :
    publishFramedPayloadResultInPlace nextMessageId payload kind chunkSize writeFrame =
      nextMessageId >>= fun msgId => tryEach (fun write : FrameWrite =>
        writeFrame write.chunk write.kind write.msgId write.flags)
        (frameWrites payload kind chunkSize msgId) := by
  apply bind_congr
  intro msgId
  exact tryEach_frames slice positive word kind
    (fun write => writeFrame write.chunk write.kind write.msgId write.flags) msgId

end Plain

/-! ### The plain definition -/

/-- How a payload is cut: the frames share one id and one kind, and only the first and the
last of them are marked as such. -/
structure IsCut (payload : List UInt8) (kind : UInt8) (chunkSize msgId : Nat)
    (writes : List FrameWrite) : Prop where
  count : writes.length = max 1 ((payload.length + chunkSize - 1) / chunkSize)
  oneMessage : ∀ write ∈ writes, write.msgId = msgId ∧ write.kind = kind
  small : ∀ write ∈ writes, write.chunk.length ≤ chunkSize
  whole : writes.flatMap FrameWrite.chunk = payload
  marks : ∀ index write, writes[index]? = some write →
    isFirstFrame write.flags = decide (index = 0) ∧
      isLastFrame write.flags = decide (index + 1 = writes.length)

theorem framesFrom_chunks (message : Message) (msgId first count : Nat) :
    (framesFrom chunkSize message msgId first count).flatMap FrameWrite.chunk =
      payloadFrom chunkSize message.payload first count := by
  induction count generalizing first with
  | zero =>
    rw [payloadFrom, Nat.zero_mul, List.take_zero]
    rfl
  | succ count ih =>
    rw [framesFrom_succ, List.flatMap_cons, ih, payloadFrom_succ]
    rfl

theorem frameWrites_isCut (positive : 0 < chunkSize) (message : Message) (msgId : Nat) :
    IsCut message.payload message.kind chunkSize msgId
      (frameWrites message.payload message.kind chunkSize msgId) := by
  rw [frameWrites_eq_framesFrom positive]
  constructor
  · rw [framesFrom_length]
    rfl
  · intro write member
    obtain ⟨index, _, same⟩ := List.mem_map.mp member
    rw [← same]
    exact ⟨rfl, rfl⟩
  · intro write member
    obtain ⟨index, _, same⟩ := List.mem_map.mp member
    rw [← same]
    exact frameAt_fits index
  · rw [framesFrom_chunks, payloadFrom_all positive (Nat.zero_add _), Nat.zero_mul,
      List.drop_zero]
  · intro index write found
    rw [framesFrom, List.getElem?_map, Option.map_eq_some_iff] at found
    obtain ⟨number, counted, same⟩ := found
    have position : number = index := by
      obtain ⟨inside, value⟩ := List.getElem?_eq_some_iff.mp counted
      rw [List.getElem_range', Nat.zero_add, Nat.one_mul] at value
      exact value.symm
    rw [← same, framesFrom_length, position]
    constructor
    · exact isFirstFrame_frameFlags _ _
    · exact isLastFrame_frameFlags _ _

/-! ### What the four emit -/

section Emission

variable {T ε : Type}

def emit (frame : T) : Taping T Unit := fun tape =>
  some ((), { tape with frames := tape.frames ++ [frame] })

def tryEmit (answer : List T → T → Except ε Unit) (frame : T) : Taping T (Except ε Unit) :=
  fun tape =>
    match answer tape.frames frame with
    | .ok () => some (.ok (), { tape with frames := tape.frames ++ [frame] })
    | .error error => some (.error error, tape)

def Succeeds (answer : List T → T → Except ε Unit) (before frames : List T) (count : Nat) :
    Prop :=
  ∀ index < count, ∀ frame, frames[index]? = some frame →
    answer (before ++ frames.take index) frame = .ok ()

def taking (tape : Tape T) : Tape T :=
  { tape with messageId := (tape.messageId + 1) % 2 ^ 32 }

def emitting (tape : Tape T) (frames : List T) : Tape T where
  messageId := (tape.messageId + 1) % 2 ^ 32
  frames := tape.frames ++ frames

variable (make : List UInt8 → UInt8 → Nat → UInt8 → T)

def framesOf (payload : List UInt8) (kind : UInt8) (chunkSize msgId : Nat) : List T :=
  (frameWrites payload kind chunkSize msgId).map fun write =>
    make write.chunk write.kind write.msgId write.flags

/-- The constructor of frames that the first and the third fragmenter are given. -/
def makeFrame (chunk : List UInt8) (kind : UInt8) (msgId : Nat) (flags : UInt8) : Taping T T :=
  pure (make chunk kind msgId flags)

/-- The writer that the other two are given: it makes the frame in the slot. -/
def inSlot {α : Type} (write : T → Taping T α) (chunk : List UInt8) (kind : UInt8) (msgId : Nat)
    (flags : UInt8) : Taping T α :=
  write (make chunk kind msgId flags)

theorem forEach_emit (frames : List T) (tape : Tape T) :
    forEach emit frames tape = some ((), { tape with frames := tape.frames ++ frames }) := by
  induction frames generalizing tape with
  | nil =>
    rw [List.append_nil]
    rfl
  | cons frame rest ih =>
    have after := ih { tape with frames := tape.frames ++ [frame] }
    rw [List.append_assoc, List.singleton_append] at after
    exact after

theorem tryEach_emit {answer : List T → T → Except ε Unit} {frames : List T} (tape : Tape T)
    {count : Nat} (succeeds : Succeeds answer tape.frames frames count) :
    tryEach (tryEmit answer) frames tape =
      tryEach (tryEmit answer) (frames.drop count)
        { tape with frames := tape.frames ++ frames.take count } := by
  induction count generalizing frames tape with
  | zero => rw [List.drop_zero, List.take_zero, List.append_nil]
  | succ count ih =>
    cases frames with
    | nil => rw [List.drop_nil, List.take_nil, List.append_nil]
    | cons frame rest =>
      have first : answer tape.frames frame = .ok () := by
        have accepted := succeeds 0 (Nat.succ_pos count) frame rfl
        rwa [List.take_zero, List.append_nil] at accepted
      have others : Succeeds answer (tape.frames ++ [frame]) rest count := by
        intro index within later found
        have accepted := succeeds (index + 1) (Nat.succ_lt_succ within) later found
        rwa [List.take_succ_cons, ← List.singleton_append, ← List.append_assoc] at accepted
      have after := ih { tape with frames := tape.frames ++ [frame] } others
      rw [List.append_assoc, List.singleton_append] at after
      rw [List.drop_succ_cons, List.take_succ_cons, ← after]
      change (tryEmit answer frame tape).bind _ = _
      unfold tryEmit
      rw [first]
      rfl

section Fragmenters

variable (slice : payload.length ≤ isizeMax) (positive : 0 < chunkSize)
  (word : chunkSize ≤ usizeMax) (kind : UInt8) (tape : Tape T)

include slice positive word

theorem publishFramedPayload_writes (write : T → Taping T Unit) :
    publishFramedPayload fetchAddMessageId payload kind chunkSize write (makeFrame make) tape =
      forEach write (framesOf make payload kind chunkSize tape.messageId) (taking tape) := by
  have plain : forEach write (framesOf make payload kind chunkSize tape.messageId) =
      forEach (fun frame : FrameWrite =>
        makeFrame make frame.chunk frame.kind frame.msgId frame.flags >>= write)
        (frameWrites payload kind chunkSize tape.messageId) := forEach_map fun frame _ => rfl
  rw [publishFramedPayload_eq slice positive word, plain]
  rfl

theorem publishFramedPayloadInPlace_writes (write : T → Taping T Unit) :
    publishFramedPayloadInPlace fetchAddMessageId payload kind chunkSize (inSlot make write)
        tape =
      forEach write (framesOf make payload kind chunkSize tape.messageId) (taking tape) := by
  have plain : forEach write (framesOf make payload kind chunkSize tape.messageId) =
      forEach (fun frame : FrameWrite =>
        inSlot make write frame.chunk frame.kind frame.msgId frame.flags)
        (frameWrites payload kind chunkSize tape.messageId) := forEach_map fun frame _ => rfl
  rw [publishFramedPayloadInPlace_eq slice positive word, plain]
  rfl

theorem publishFramedPayloadResult_writes (write : T → Taping T (Except ε Unit)) :
    publishFramedPayloadResult fetchAddMessageId payload kind chunkSize write (makeFrame make)
        tape =
      tryEach write (framesOf make payload kind chunkSize tape.messageId) (taking tape) := by
  have plain : tryEach write (framesOf make payload kind chunkSize tape.messageId) =
      tryEach (fun frame : FrameWrite =>
        makeFrame make frame.chunk frame.kind frame.msgId frame.flags >>= write)
        (frameWrites payload kind chunkSize tape.messageId) := tryEach_map fun frame _ => rfl
  rw [publishFramedPayloadResult_eq slice positive word, plain]
  rfl

theorem publishFramedPayloadResultInPlace_writes (write : T → Taping T (Except ε Unit)) :
    publishFramedPayloadResultInPlace fetchAddMessageId payload kind chunkSize
        (inSlot make write) tape =
      tryEach write (framesOf make payload kind chunkSize tape.messageId) (taking tape) := by
  have plain : tryEach write (framesOf make payload kind chunkSize tape.messageId) =
      tryEach (fun frame : FrameWrite =>
        inSlot make write frame.chunk frame.kind frame.msgId frame.flags)
        (frameWrites payload kind chunkSize tape.messageId) := tryEach_map fun frame _ => rfl
  rw [publishFramedPayloadResultInPlace_eq slice positive word, plain]
  rfl

end Fragmenters

theorem tryEach_emits {answer : List T → T → Except ε Unit} {frames : List T} {tape : Tape T}
    (succeeds : Succeeds answer tape.frames frames frames.length) :
    tryEach (tryEmit answer) frames (taking tape) = some (.ok (), emitting tape frames) := by
  have all := tryEach_emit (taking tape) succeeds
  rw [List.drop_length, List.take_length] at all
  exact all

theorem tryEach_fails {answer : List T → T → Except ε Unit} {frames : List T} {tape : Tape T}
    {index : Nat} {frame : T} {error : ε} (succeeds : Succeeds answer tape.frames frames index)
    (found : frames[index]? = some frame)
    (fails : answer (tape.frames ++ frames.take index) frame = .error error) :
    tryEach (tryEmit answer) frames (taking tape) =
      some (.error error, emitting tape (frames.take index)) := by
  obtain ⟨inside, value⟩ := List.getElem?_eq_some_iff.mp found
  have before := tryEach_emit (taking tape) succeeds
  rw [List.drop_eq_getElem_cons inside, value] at before
  rw [before]
  change (tryEmit answer frame _).bind _ = _
  unfold tryEmit
  change ((match answer (tape.frames ++ frames.take index) frame with
    | .ok () => _
    | .error error => _) : Option (Except ε Unit × Tape T)).bind _ = _
  rw [fails]
  rfl

end Emission

/-- The four fragmenters emit the frames of one cut, whatever a frame is made of; and a
writer that fails at a frame leaves exactly the frames in front of it. -/
theorem fragmenters_agree (payload : List UInt8) (kind : UInt8) (chunkSize messageId : Nat)
    (slice : payload.length ≤ isizeMax) (positive : 1 ≤ chunkSize)
    (word : chunkSize ≤ usizeMax) :
    ∃ writes, IsCut payload kind chunkSize messageId writes ∧
      (∀ index < writes.length, (index + 1) * chunkSize ≤ usizeMax) ∧
      ∀ {T ε : Type} (make : List UInt8 → UInt8 → Nat → UInt8 → T)
        (answer : List T → T → Except ε Unit) (tape : Tape T), tape.messageId = messageId →
        let frames := writes.map fun write =>
          make write.chunk write.kind write.msgId write.flags
        publishFramedPayload fetchAddMessageId payload kind chunkSize emit (makeFrame make)
            tape = some ((), emitting tape frames) ∧
        publishFramedPayloadInPlace fetchAddMessageId payload kind chunkSize
            (inSlot make emit) tape = some ((), emitting tape frames) ∧
        (Succeeds answer tape.frames frames frames.length →
          publishFramedPayloadResult fetchAddMessageId payload kind chunkSize
              (tryEmit answer) (makeFrame make) tape = some (.ok (), emitting tape frames) ∧
          publishFramedPayloadResultInPlace fetchAddMessageId payload kind chunkSize
              (inSlot make (tryEmit answer)) tape = some (.ok (), emitting tape frames)) ∧
        ∀ index frame error, Succeeds answer tape.frames frames index →
          frames[index]? = some frame →
          answer (tape.frames ++ frames.take index) frame = .error error →
          publishFramedPayloadResult fetchAddMessageId payload kind chunkSize
              (tryEmit answer) (makeFrame make) tape =
            some (.error error, emitting tape (frames.take index)) ∧
          publishFramedPayloadResultInPlace fetchAddMessageId payload kind chunkSize
              (inSlot make (tryEmit answer)) tape =
            some (.error error, emitting tape (frames.take index)) := by
  have cut := frameWrites_isCut positive { kind, payload } messageId
  refine ⟨frameWrites payload kind chunkSize messageId, cut, ?_, ?_⟩
  · intro index within
    rw [cut.count] at within
    exact reached_within slice word within
  · intro T ε make answer tape same frames
    subst same
    rw [publishFramedPayload_writes make slice positive word,
      publishFramedPayloadInPlace_writes make slice positive word,
      publishFramedPayloadResult_writes make slice positive word,
      publishFramedPayloadResultInPlace_writes make slice positive word]
    constructor
    · exact forEach_emit _ _
    constructor
    · exact forEach_emit _ _
    constructor
    · intro succeeds
      exact ⟨tryEach_emits succeeds, tryEach_emits succeeds⟩
    · intro index frame error succeeds found fails
      exact ⟨tryEach_fails succeeds found fails, tryEach_fails succeeds found fails⟩

/-- An exact multiple of the chunk size: two frames, and none where the writer fails at
once. -/
theorem fragmenters_agree_exact :
    ∃ frames : List FrameWrite, frames.length = 2 ∧
      publishFramedPayload fetchAddMessageId [10, 11, 12, 13] 1 2 emit
          (makeFrame FrameWrite.mk) { messageId := 7, frames := [] } =
        some ((), { messageId := 8, frames := frames }) ∧
      publishFramedPayloadResult fetchAddMessageId [10, 11, 12, 13] 1 2
          (tryEmit fun _ _ => .error ()) (makeFrame FrameWrite.mk)
          { messageId := 7, frames := [] } =
        some (.error (), { messageId := 8, frames := [] }) := by
  obtain ⟨writes, cut, _, agree⟩ :=
    fragmenters_agree [10, 11, 12, 13] 1 2 7 (by decide) (by decide) (by decide)
  obtain ⟨emitted, _, _, fails⟩ := agree FrameWrite.mk (fun _ _ => Except.error ())
    { messageId := 7, frames := [] } rfl
  have two : writes.length = 2 := cut.count
  refine ⟨writes.map fun write => write, ?_, emitted, ?_⟩
  · rw [List.length_map, two]
  · cases writes with
    | nil => cases two
    | cons first rest =>
      exact (fails 0 first () (fun index within => absurd within (Nat.not_lt_zero index)) rfl
        rfl).1

end Checked

end Framing
