/-
The reassembly buffer in its words.

The buffer is a vector of words of 16 bytes and a length in bytes. Its calls write to slices of
the bytes, and `bytes` takes as many of them as the length says, with no check. A vector cannot
always grow: the process ends where there is no memory, or where the vector would have more
bytes than any may have.
-/

import Myelon.Framing.Fragmenters
import Myelon.Framing.Reassembly

namespace Framing.Storage

/-- How a call ends that does not return. -/
inductive Fault where
  | allocation
  | overflow
  /-- A range outside of its slice, or data of another length. -/
  | slice
  /-- Bytes behind the words, where nothing checks it. -/
  | outside
  deriving DecidableEq

/-! ### The vector -/

structure Words where
  bytes : List UInt8
  count : Nat
  whole : bytes.length = 16 * count
  allocated : 16 * count ≤ isizeMax

namespace Words

/-- `granted` says whether there is memory for what is asked for. -/
def withCapacity (granted : Bool) (count : Nat) : Except Fault Words :=
  if 16 * count ≤ isizeMax ∧ granted = true then
    .ok { bytes := [], count := 0, whole := rfl, allocated := Nat.zero_le _ }
  else .error .allocation

def resize (granted : Bool) (words : Words) (count : Nat) : Except Fault Words :=
  if fewer : count ≤ words.count then
    .ok
      { bytes := words.bytes.take (16 * count)
        count
        whole := by
          rw [List.length_take, words.whole]
          omega
        allocated := Nat.le_trans (Nat.mul_le_mul_left 16 fewer) words.allocated }
  else if room : 16 * count ≤ isizeMax ∧ granted = true then
    .ok
      { bytes := words.bytes ++ List.replicate (16 * (count - words.count)) 0
        count
        whole := by
          rw [List.length_append, List.length_replicate, words.whole]
          omega
        allocated := room.1 }
  else .error .allocation

def copyFromSlice (words : Words) (start finish : Nat) (data : List UInt8) :
    Except Fault Words :=
  if inside : start ≤ finish ∧ finish ≤ words.bytes.length then
    if same : data.length = finish - start then
      .ok
        { words with
          bytes := words.bytes.take start ++ data ++ words.bytes.drop finish
          whole := by
            have whole := words.whole
            simp only [List.length_append, List.length_take, List.length_drop]
            omega }
    else .error .slice
  else .error .slice

end Words

/-! ### The buffer -/

structure ReassemblyBuffer where
  buf : Words
  len : Nat
  msgId : Nat
  kind : UInt8
  sentTimestampNs : Option Nat

def addUsize (left right : Nat) : Except Fault Nat :=
  if left + right ≤ usizeMax then .ok (left + right) else .error .overflow

namespace ReassemblyBuffer

def wordCapacity (byteCapacity : Nat) : Nat := min (byteCapacity + (16 - 1)) usizeMax / 16

def new (granted : Bool) (capacity : Nat) : Except Fault ReassemblyBuffer := do
  let buf ← Words.withCapacity granted (wordCapacity capacity)
  pure { buf, len := 0, msgId := 0, kind := 0, sentTimestampNs := none }

def ensureCapacity (granted : Bool) (buffer : ReassemblyBuffer) (neededBytes : Nat) :
    Except Fault ReassemblyBuffer :=
  let neededWords := wordCapacity neededBytes
  if buffer.buf.count < neededWords then do
    let buf ← buffer.buf.resize granted neededWords
    pure { buffer with buf }
  else pure buffer

def start (granted : Bool) (buffer : ReassemblyBuffer) (msgId : Nat) (kind : UInt8)
    (firstData : List UInt8) (totalLen : Nat) (sentTimestampNs : Option Nat) :
    Except Fault ReassemblyBuffer := do
  let neededLen := max totalLen firstData.length
  let buffer ← buffer.ensureCapacity granted neededLen
  let buf ← buffer.buf.copyFromSlice 0 firstData.length firstData
  pure { buf, len := firstData.length, msgId, kind, sentTimestampNs }

def append (granted : Bool) (buffer : ReassemblyBuffer) (data : List UInt8) :
    Except Fault ReassemblyBuffer := do
  let start := buffer.len
  let finish ← addUsize start data.length
  let buffer ← buffer.ensureCapacity granted finish
  let buf ← buffer.buf.copyFromSlice start finish data
  pure { buffer with buf, len := finish }

def reset (buffer : ReassemblyBuffer) : ReassemblyBuffer :=
  { buffer with len := 0, msgId := 0, sentTimestampNs := none }

def bytes (buffer : ReassemblyBuffer) : Except Fault (List UInt8) :=
  if buffer.len ≤ buffer.buf.bytes.length then .ok (buffer.buf.bytes.take buffer.len)
  else .error .outside

end ReassemblyBuffer

/-! ### Sequences of calls -/

/-- No slice has more bytes than this. -/
abbrev Slice := { data : List UInt8 // data.length ≤ isizeMax }

inductive Call where
  | start (msgId : Nat) (kind : UInt8) (firstData : Slice) (totalLen : Nat)
      (sentTimestampNs : Option Nat)
  | append (data : Slice)
  | reset

namespace Call

def perform (granted : Bool) (buffer : ReassemblyBuffer) : Call → Except Fault ReassemblyBuffer
  | .start msgId kind firstData totalLen sentTimestampNs =>
      buffer.start granted msgId kind firstData.val totalLen sentTimestampNs
  | .append data => buffer.append granted data.val
  | .reset => .ok buffer.reset

def given (chunks : List UInt8) : Call → List UInt8
  | .start _ _ firstData _ _ => firstData.val
  | .append data => chunks ++ data.val
  | .reset => []

end Call

/-- A buffer of some capacity, and calls with the memory that is granted to each of them. -/
def session (granted : Bool) (capacity : Nat) (calls : List (Bool × Call)) :
    Except Fault ReassemblyBuffer := do
  let buffer ← ReassemblyBuffer.new granted capacity
  calls.foldlM (fun buffer call => call.2.perform call.1 buffer) buffer

def given (calls : List (Bool × Call)) : List UInt8 :=
  calls.foldl (fun chunks call => call.2.given chunks) []

/-! ### The buffer that the receivers are stated with -/

namespace ReassemblyBuffer

structure Represents (buffer : ReassemblyBuffer) (whole : Framing.ReassemblyBuffer) : Prop where
  buf : buffer.buf.bytes = whole.buf
  len : buffer.len = whole.len
  msgId : buffer.msgId = whole.msgId
  kind : buffer.kind = whole.kind

variable {buffer : ReassemblyBuffer} {whole : Framing.ReassemblyBuffer}

theorem Represents.within (represents : buffer.Represents whole) :
    buffer.len ≤ buffer.buf.bytes.length := by
  rw [represents.buf, represents.len]
  exact whole.within

theorem Represents.bytes (represents : buffer.Represents whole) :
    buffer.bytes = .ok whole.bytes := by
  unfold ReassemblyBuffer.bytes
  rw [if_pos represents.within, represents.buf, represents.len]
  rfl

/-! ### Growth -/

/-- There is room for the bytes that are needed, or the vector may not have so many words. -/
theorem wordCapacity_holds (neededBytes : Nat) :
    wordCapacity neededBytes = Framing.ReassemblyBuffer.wordCapacity neededBytes ∨
      isizeMax < 16 * wordCapacity neededBytes := by
  unfold wordCapacity Framing.ReassemblyBuffer.wordCapacity isizeMax usizeMax
  omega

structure Grown (neededBytes : Nat) (before after : ReassemblyBuffer) : Prop where
  words : after.buf.bytes =
    Framing.ReassemblyBuffer.ensureCapacity before.buf.bytes neededBytes
  same : after = { before with buf := after.buf }

/-- There is no memory for so many bytes, or no vector may have them. -/
def Scarce (granted : Bool) (neededBytes : Nat) : Prop :=
  ¬ (16 * wordCapacity neededBytes ≤ isizeMax ∧ granted = true)

theorem ensureCapacity_spec (granted : Bool) (buffer : ReassemblyBuffer) (neededBytes : Nat) :
    match buffer.ensureCapacity granted neededBytes with
    | .ok after => Grown neededBytes buffer after
    | .error fault => fault = .allocation ∧ Scarce granted neededBytes := by
  have holds := wordCapacity_holds neededBytes
  have allocated := buffer.buf.allocated
  have count : buffer.buf.bytes.length / 16 = buffer.buf.count := by
    rw [buffer.buf.whole, Nat.mul_div_cancel_left _ (by decide)]
  unfold ensureCapacity
  by_cases short : buffer.buf.count < wordCapacity neededBytes
  · have more : ¬ wordCapacity neededBytes ≤ buffer.buf.count := Nat.not_le_of_lt short
    simp only [if_pos short, Words.resize, dif_neg more]
    by_cases room : 16 * wordCapacity neededBytes ≤ isizeMax ∧ granted = true
    · have same := holds.resolve_right (Nat.not_lt_of_le room.1)
      have zeros : 16 * (wordCapacity neededBytes - buffer.buf.count) =
          Framing.ReassemblyBuffer.wordCapacity neededBytes * 16 - buffer.buf.bytes.length := by
        rw [same, buffer.buf.whole]
        omega
      rw [dif_pos room]
      constructor
      · change buffer.buf.bytes ++ List.replicate _ 0 = _
        rw [zeros]
        unfold Framing.ReassemblyBuffer.ensureCapacity
        rw [count, ← same, if_pos short]
      · rfl
    · rw [dif_neg room]
      exact ⟨rfl, room⟩
  · have same : wordCapacity neededBytes = Framing.ReassemblyBuffer.wordCapacity neededBytes :=
      holds.resolve_right (by omega)
    simp only [if_neg short]
    constructor
    · unfold Framing.ReassemblyBuffer.ensureCapacity
      rw [count, ← same, if_neg short]
    · rfl

theorem Grown.longer {neededBytes : Nat} {before after : ReassemblyBuffer}
    (grown : Grown neededBytes before after) : before.buf.bytes <+: after.buf.bytes := by
  have kept := Framing.ReassemblyBuffer.ensureCapacity_take
    (Nat.le_refl before.buf.bytes.length) neededBytes
  rw [List.take_length, ← grown.words] at kept
  have longer := List.take_prefix before.buf.bytes.length after.buf.bytes
  rwa [kept] at longer

theorem Grown.bytes {neededBytes : Nat} {before after : ReassemblyBuffer}
    (grown : Grown neededBytes before after) (within : before.len ≤ before.buf.bytes.length) :
    after.bytes = before.bytes := by
  obtain ⟨more, longer⟩ := grown.longer
  have len : after.len = before.len := by rw [grown.same]
  have further : before.len ≤ after.buf.bytes.length := by
    rw [← longer, List.length_append]
    omega
  unfold ReassemblyBuffer.bytes
  rw [len, if_pos further, if_pos within, ← longer, List.take_append_of_le_length within]

theorem copyFromSlice_fits {words : Words} {start : Nat} {data : List UInt8}
    (fits : start + data.length ≤ words.bytes.length) :
    ∃ after : Words, words.copyFromSlice start (start + data.length) data = .ok after ∧
      after.bytes = Framing.ReassemblyBuffer.copyAt words.bytes start data := by
  have inside : start ≤ start + data.length ∧ start + data.length ≤ words.bytes.length :=
    ⟨Nat.le_add_right _ _, fits⟩
  have same : data.length = start + data.length - start := (Nat.add_sub_cancel_left ..).symm
  unfold Words.copyFromSlice
  rw [dif_pos inside, dif_pos same]
  exact ⟨_, rfl, rfl⟩

/-! ### The calls -/

/-- A call that returns leaves a buffer that represents the other, and one that does not has
found no memory, which is scarce then. -/
def Returns (scarce : Prop) (whole : Framing.ReassemblyBuffer) :
    Except Fault ReassemblyBuffer → Prop
  | .ok after => after.Represents whole
  | .error fault => fault = .allocation ∧ scarce

theorem Returns.weaken {scarce other : Prop} (implied : scarce → other)
    {result : Except Fault ReassemblyBuffer} (returns : Returns scarce whole result) :
    Returns other whole result := by
  cases result with
  | error fault => exact ⟨returns.1, implied returns.2⟩
  | ok after => exact returns

theorem start_returns (granted : Bool) (represents : buffer.Represents whole) (msgId : Nat)
    (kind : UInt8) (firstData : List UInt8) (totalLen : Nat) (sentTimestampNs : Option Nat) :
    Returns (Scarce granted (max totalLen firstData.length))
      (whole.start msgId kind firstData totalLen)
      (buffer.start granted msgId kind firstData totalLen sentTimestampNs) := by
  have grows := buffer.ensureCapacity_spec granted (max totalLen firstData.length)
  cases grown : buffer.ensureCapacity granted (max totalLen firstData.length) with
  | error fault =>
      rw [grown] at grows
      simp only [start, bind, Except.bind, grown]
      exact grows
  | ok after =>
      rw [grown] at grows
      have enough := (Framing.ReassemblyBuffer.ensureCapacity_length buffer.buf.bytes
        (max totalLen firstData.length)).2
      rw [← grows.words] at enough
      have fits : 0 + firstData.length ≤ after.buf.bytes.length := by omega
      obtain ⟨words, copied, bytes⟩ := copyFromSlice_fits fits
      rw [Nat.zero_add] at copied
      rw [grows.words, represents.buf] at bytes
      simp only [start, bind, Except.bind, grown, copied]
      exact ⟨bytes, rfl, rfl, rfl⟩

theorem append_returns (granted : Bool) (represents : buffer.Represents whole) (data : Slice) :
    Returns (Scarce granted (whole.len + data.val.length)) (whole.append data.val)
      (buffer.append granted data.val) := by
  have slice := data.property
  have within := represents.within
  have allocated := buffer.buf.allocated
  rw [buffer.buf.whole] at within
  have sum : addUsize buffer.len data.val.length = .ok (buffer.len + data.val.length) := by
    apply if_pos
    unfold isizeMax at slice allocated
    unfold usizeMax
    omega
  have grows := buffer.ensureCapacity_spec granted (buffer.len + data.val.length)
  cases grown : buffer.ensureCapacity granted (buffer.len + data.val.length) with
  | error fault =>
      rw [grown, represents.len] at grows
      simp only [append, bind, Except.bind, sum, grown]
      exact grows
  | ok after =>
      rw [grown] at grows
      have enough := (Framing.ReassemblyBuffer.ensureCapacity_length buffer.buf.bytes
        (buffer.len + data.val.length)).2
      rw [← grows.words] at enough
      obtain ⟨words, copied, bytes⟩ := copyFromSlice_fits enough
      rw [grows.words, represents.buf, represents.len] at bytes
      have msgId : after.msgId = buffer.msgId := by rw [grows.same]
      have kind : after.kind = buffer.kind := by rw [grows.same]
      simp only [append, bind, Except.bind, sum, grown, copied]
      exact ⟨bytes, congrArg (· + data.val.length) represents.len, msgId.trans represents.msgId,
        kind.trans represents.kind⟩

theorem reset_represents (represents : buffer.Represents whole) :
    buffer.reset.Represents whole.reset :=
  ⟨represents.buf, rfl, rfl, represents.kind⟩

end ReassemblyBuffer

/-! ### Whole sessions -/

def Call.receive (whole : Framing.ReassemblyBuffer) : Call → Framing.ReassemblyBuffer
  | .start msgId kind firstData totalLen _ => whole.start msgId kind firstData.val totalLen
  | .append data => whole.append data.val
  | .reset => whole.reset

/-- How many bytes the buffer has to have room for. -/
def Call.needs (whole : Framing.ReassemblyBuffer) : Call → Nat
  | .start _ _ firstData totalLen _ => max totalLen firstData.val.length
  | .append data => whole.len + data.val.length
  | .reset => 0

theorem perform_returns (granted : Bool) {buffer : ReassemblyBuffer}
    {whole : Framing.ReassemblyBuffer} (represents : buffer.Represents whole) (call : Call) :
    ReassemblyBuffer.Returns (ReassemblyBuffer.Scarce granted (call.needs whole))
      (call.receive whole) (call.perform granted buffer) := by
  cases call with
  | start msgId kind firstData totalLen sentTimestampNs =>
      exact ReassemblyBuffer.start_returns granted represents msgId kind firstData.val totalLen
        sentTimestampNs
  | append data => exact ReassemblyBuffer.append_returns granted represents data
  | reset => exact ReassemblyBuffer.reset_represents represents

theorem bytes_receive (whole : Framing.ReassemblyBuffer) (call : Call) :
    (call.receive whole).bytes = call.given whole.bytes := by
  cases call with
  | start msgId kind firstData totalLen sentTimestampNs =>
      exact Framing.ReassemblyBuffer.bytes_start whole msgId kind firstData.val totalLen
  | append data => exact Framing.ReassemblyBuffer.bytes_append whole data.val
  | reset => rfl

/-- There is memory for all that the calls need. -/
def Granted : Framing.ReassemblyBuffer → List (Bool × Call) → Prop
  | _, [] => True
  | whole, call :: rest =>
      ¬ ReassemblyBuffer.Scarce call.1 (call.2.needs whole) ∧
        Granted (call.2.receive whole) rest

theorem calls_return {buffer : ReassemblyBuffer} {whole : Framing.ReassemblyBuffer}
    (represents : buffer.Represents whole) (calls : List (Bool × Call)) :
    ReassemblyBuffer.Returns (¬ Granted whole calls)
      (calls.foldl (fun whole call => call.2.receive whole) whole)
      (calls.foldlM (fun buffer call => call.2.perform call.1 buffer) buffer) := by
  induction calls generalizing buffer whole with
  | nil => exact represents
  | cons call rest ih =>
      have returns := perform_returns call.1 represents call.2
      rw [List.foldlM_cons, List.foldl_cons]
      cases performed : call.2.perform call.1 buffer with
      | error fault =>
          rw [performed] at returns
          exact ⟨returns.1, fun granted => granted.1 returns.2⟩
      | ok after =>
          rw [performed] at returns
          exact (ih returns).weaken fun scarce granted => scarce granted.2

theorem session_returns (granted : Bool) (capacity : Nat) (calls : List (Bool × Call)) :
    ReassemblyBuffer.Returns
      (ReassemblyBuffer.Scarce granted capacity ∨ ¬ Granted .new calls)
      (calls.foldl (fun whole call => call.2.receive whole) .new)
      (session granted capacity calls) := by
  unfold session ReassemblyBuffer.new Words.withCapacity
  by_cases room : 16 * ReassemblyBuffer.wordCapacity capacity ≤ isizeMax ∧ granted = true
  · rw [if_pos room]
    apply ReassemblyBuffer.Returns.weaken Or.inr
    apply calls_return
    exact ⟨rfl, rfl, rfl, rfl⟩
  · rw [if_neg room]
    exact ⟨rfl, .inl room⟩

/-- With memory for all that it needs, a session returns. -/
theorem session_succeeds {granted : Bool} {capacity : Nat} {calls : List (Bool × Call)}
    (room : ¬ ReassemblyBuffer.Scarce granted capacity) (enough : Granted .new calls) :
    ∃ buffer, session granted capacity calls = .ok buffer := by
  have returns := session_returns granted capacity calls
  cases same : session granted capacity calls with
  | error fault =>
      rw [same] at returns
      exact (returns.2.elim room (absurd enough)).elim
  | ok buffer => exact ⟨buffer, rfl⟩

theorem bytes_received (calls : List (Bool × Call)) :
    (calls.foldl (fun whole call => call.2.receive whole)
      Framing.ReassemblyBuffer.new).bytes = given calls := by
  unfold given
  induction calls using List.reverseRecOn with
  | nil => rfl
  | append_singleton calls call ih =>
      rw [List.foldl_append, List.foldl_append]
      exact (bytes_receive _ call.2).trans (congrArg (fun chunks => call.2.given chunks) ih)

/-! ### What a session keeps -/

/-- The length is inside of the words, the bytes are the given chunks, and growth would leave
what is there as it is. -/
structure Sound (chunks : List UInt8) (buffer : ReassemblyBuffer) : Prop where
  within : buffer.len ≤ 16 * buffer.buf.count
  bytes : buffer.bytes = .ok chunks
  grows : ∀ granted neededBytes after, buffer.ensureCapacity granted neededBytes = .ok after →
    buffer.buf.bytes <+: after.buf.bytes ∧ after.bytes = .ok chunks

/-- After any calls the buffer is sound, and a call that does not return has found no memory:
no range was outside of its slice. -/
theorem reassembly_buffer_sound (granted : Bool) (capacity : Nat)
    (calls : List (Bool × Call)) :
    match session granted capacity calls with
    | .ok buffer => Sound (given calls) buffer
    | .error fault => fault = .allocation := by
  have returns := session_returns granted capacity calls
  cases same : session granted capacity calls with
  | error fault =>
      rw [same] at returns
      exact returns.1
  | ok buffer =>
      rw [same] at returns
      have bytes : buffer.bytes = .ok (given calls) := by
        rw [returns.bytes, bytes_received]
      constructor
      · rw [← buffer.buf.whole]
        exact returns.within
      · exact bytes
      · intro granted neededBytes after grown
        have grows := buffer.ensureCapacity_spec granted neededBytes
        rw [grown] at grows
        exact ⟨grows.longer, (grows.bytes returns.within).trans bytes⟩

/-- A shorter message after a longer one, and a chunk after a reset. -/
example : (session true 0
      [(true, .start 1 0 ⟨[1, 2, 3], by decide⟩ 20 none), (true, .append ⟨[4], by decide⟩),
        (true, .start 2 0 ⟨[5], by decide⟩ 2 none), (true, .append ⟨[6], by decide⟩)]).bind
      ReassemblyBuffer.bytes = .ok [5, 6] ∧
    (session true 0 [(true, .reset), (true, .append ⟨[7], by decide⟩)]).bind
      ReassemblyBuffer.bytes = .ok [7] := by
  constructor <;> rfl

end Framing.Storage
