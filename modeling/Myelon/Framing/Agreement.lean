/-
When the three receivers agree.

The owned receiver, and the leased one with it, waits for the rest of an abandoned
message and takes later messages for it or skips them; the batch receiver does not.
They agree exactly where no complete message follows an abandoned one.
-/

import Myelon.Framing.RoundTrip

namespace Framing

open Streaming

variable {chunkSize : Nat}

/-- No complete run follows one that was cut short after its first frame. -/
def Undisturbed : List (Run chunkSize) → Prop
  | [] => True
  | run :: rest =>
      if run.Complete ∨ run.emitted = 0 then Undisturbed rest
      else ∀ other ∈ rest, ¬ other.Complete

theorem completed_none {runs : List (Run chunkSize)} (cut : ∀ run ∈ runs, ¬ run.Complete) :
    completed runs = [] := by
  induction runs with
  | nil => rfl
  | cons run rest ih =>
      rw [completed_cons_cut (cut run List.mem_cons_self)]
      exact ih fun other member => cut other (List.mem_cons_of_mem _ member)

theorem frames_empty {run : Run chunkSize} (none : run.emitted = 0) : run.frames = [] := by
  rw [Run.frames, Run.framesAfter, none]
  rfl

/-! ### The owned receiver with a message to wait for -/

variable {pending : PartialMessage}

theorem owned_waits (same : pending.messageMeta.msgId = msgId) {run : Run chunkSize}
    (here : run.messageId = msgId) (cut : ¬ run.Complete) :
    ownedReceiver.after (some pending) run.frames =
      some { pending with payload :=
        pending.payload ++ payloadFrom chunkSize run.message.payload 0 run.emitted } ∧
    ownedReceiver.outputs (some pending) run.frames = [] := by
  have within := run.within
  have early : 0 + run.emitted < frameCount chunkSize run.message.payload := by omega
  exact owned_collects (same.trans here.symm) early

theorem owned_merges (positive : 0 < chunkSize) (same : pending.messageMeta.msgId = msgId)
    {run : Run chunkSize} (here : run.messageId = msgId) (complete : run.Complete) :
    ownedReceiver.after (some pending) run.frames = none ∧
    ownedReceiver.outputs (some pending) run.frames =
      [{ kind := pending.messageMeta.kind
         payload := pending.payload ++ run.message.payload }] := by
  have all : 0 + run.emitted = frameCount chunkSize run.message.payload := by
    rw [Nat.zero_add]
    exact complete
  have merged := owned_completes positive (same.trans here.symm) all complete.emitted_pos
  rw [Nat.zero_mul, List.drop_zero] at merged
  exact merged

theorem owned_ignores {run : Run chunkSize} (other : pending.messageMeta.msgId ≠ run.messageId) :
    ownedReceiver.after (some pending) run.frames = some pending ∧
      ownedReceiver.outputs (some pending) run.frames = [] :=
  owned_passes other 0 _

/-! ### Agreement -/

def totalBytes (messages : List Message) : Nat :=
  (messages.map fun message => message.payload.length).sum

@[simp] theorem totalBytes_nil : totalBytes [] = 0 := rfl

@[simp] theorem totalBytes_cons (message : Message) (rest : List Message) :
    totalBytes (message :: rest) = message.payload.length + totalBytes rest :=
  List.sum_cons

def waitingBytes : Option PartialMessage → Nat
  | none => 0
  | some pending => pending.payload.length

theorem owned_run (positive : 0 < chunkSize) (state : Option PartialMessage)
    (run : Run chunkSize) :
    (run.Complete ∧ ∃ message, ownedReceiver.after state run.frames = none ∧
      ownedReceiver.outputs state run.frames = [message] ∧
      message.payload.length = waitingBytes state + run.message.payload.length) ∨
    (ownedReceiver.outputs state run.frames = [] ∧
      waitingBytes state ≤ waitingBytes (ownedReceiver.after state run.frames)) := by
  rcases Nat.eq_zero_or_pos run.emitted with empty | nonempty
  · rw [frames_empty empty]
    exact .inr ⟨rfl, Nat.le_refl _⟩
  cases state with
  | none =>
      by_cases complete : run.Complete
      · obtain ⟨after, outputs⟩ := owned_complete positive complete nonempty
        refine .inl ⟨complete, _, after, outputs, ?_⟩
        simp [waitingBytes]
      · obtain ⟨_after, outputs⟩ := owned_cut complete nonempty
        exact .inr ⟨outputs, Nat.zero_le _⟩
  | some pending =>
      by_cases same : pending.messageMeta.msgId = run.messageId
      · by_cases complete : run.Complete
        · obtain ⟨after, outputs⟩ := owned_merges positive same rfl complete
          exact .inl ⟨complete, _, after, outputs, List.length_append⟩
        · obtain ⟨after, outputs⟩ := owned_waits same rfl complete
          refine .inr ⟨outputs, ?_⟩
          rw [after, waitingBytes, waitingBytes, List.length_append]
          omega
      · obtain ⟨after, outputs⟩ := owned_ignores same
        exact .inr ⟨outputs, Nat.le_of_eq (by rw [after])⟩

/-- The owned receiver gets no more messages than were completed, and as many only with
all the bytes of those and of the message it was waiting for. -/
theorem owned_bound (positive : 0 < chunkSize) (runs : List (Run chunkSize))
    (state : Option PartialMessage) :
    (ownedReceiver.outputs state (stream runs)).length ≤ (completed runs).length ∧
    ((ownedReceiver.outputs state (stream runs)).length = (completed runs).length →
      completed runs = [] ∨
      totalBytes (completed runs) + waitingBytes state ≤
        totalBytes (ownedReceiver.outputs state (stream runs))) := by
  induction runs generalizing state with
  | nil => exact ⟨Nat.le_refl _, fun _ => .inl rfl⟩
  | cons run rest ih =>
      obtain ⟨fewer, enough⟩ := ih (ownedReceiver.after state run.frames)
      rw [stream_cons, Transducer.outputs_append]
      rcases owned_run positive state run with
        ⟨complete, message, after, outputs, bytes⟩ | ⟨outputs, more⟩
      · rw [completed_cons_complete complete, outputs, List.singleton_append, List.length_cons,
          List.length_cons, totalBytes_cons, totalBytes_cons, bytes]
        refine ⟨by omega, fun same => .inr ?_⟩
        rcases enough (by omega) with none | all
        · rw [none, totalBytes_nil]
          omega
        · omega
      · rw [outputs, List.nil_append]
        by_cases complete : run.Complete
        · rw [completed_cons_complete complete, List.length_cons]
          exact ⟨by omega, fun same => absurd same (by omega)⟩
        · rw [completed_cons_cut complete]
          refine ⟨fewer, fun same => (enough same).imp_right fun all => by omega⟩

theorem owned_agrees (positive : 0 < chunkSize) {runs : List (Run chunkSize)}
    (undisturbed : Undisturbed runs) :
    ownedReceiver.outputs none (stream runs) = completed runs := by
  induction runs with
  | nil => rfl
  | cons run rest ih =>
      rw [stream_cons, Transducer.outputs_append]
      unfold Undisturbed at undisturbed
      split at undisturbed
      · rename_i either
        by_cases complete : run.Complete
        · obtain ⟨after, outputs⟩ := owned_complete positive complete complete.emitted_pos
          rw [Run.frames, after, outputs, ih undisturbed, completed_cons_complete complete,
            Nat.zero_mul, List.drop_zero]
          rfl
        · have empty := either.resolve_left complete
          rw [frames_empty empty, completed_cons_cut complete]
          exact ih undisturbed
      · rename_i neither
        obtain ⟨cut, some⟩ := not_or.mp neither
        have none : completed rest = [] := completed_none undisturbed
        obtain ⟨fewer, _enough⟩ := owned_bound positive rest
          (ownedReceiver.after Option.none run.frames)
        obtain ⟨_after, outputs⟩ := owned_cut cut (Nat.pos_of_ne_zero some)
        rw [none, List.length_nil, Nat.le_zero, List.length_eq_zero_iff] at fewer
        rw [Run.frames, outputs, ← Run.frames, fewer, completed_cons_cut cut, none]
        rfl

theorem undisturbed_of_agrees (positive : 0 < chunkSize) {runs : List (Run chunkSize)}
    (agrees : ownedReceiver.outputs none (stream runs) = completed runs) :
    Undisturbed runs := by
  induction runs with
  | nil => trivial
  | cons run rest ih =>
      rw [stream_cons, Transducer.outputs_append] at agrees
      unfold Undisturbed
      split
      · rename_i either
        by_cases complete : run.Complete
        · obtain ⟨after, outputs⟩ := owned_complete positive complete complete.emitted_pos
          rw [Run.frames, after, outputs, completed_cons_complete complete] at agrees
          exact ih (List.cons.inj agrees).2
        · have empty := either.resolve_left complete
          rw [frames_empty empty, completed_cons_cut complete] at agrees
          exact ih agrees
      · rename_i neither
        obtain ⟨cut, some⟩ := not_or.mp neither
        have nonempty := Nat.pos_of_ne_zero some
        obtain ⟨after, outputs⟩ := owned_cut cut nonempty
        rw [Run.frames, outputs, after, completed_cons_cut cut, List.nil_append] at agrees
        -- The first byte of the abandoned message would have to be in some message.
        intro other member complete
        have within := run.within
        have early : 0 + (run.emitted - 0) < frameCount chunkSize run.message.payload := by
          omega
        have length := payloadFrom_length positive early
        have full : 0 < (run.emitted - 0) * chunkSize := Nat.mul_pos (by omega) positive
        rcases (owned_bound positive rest _).2 (congrArg List.length agrees) with none | all
        · have found := mem_completed member complete
          rw [none] at found
          exact List.not_mem_nil found
        · rw [agrees, waitingBytes, length] at all
          omega

/-! ### What publications leave in the ring -/

/-- Each receiver gets the messages that were completed, so all get the same. -/
def Agree (F : Type) [FramedTransportFrame F] (old : Nat → F)
    (publications : List Publication) : Prop :=
  ∃ metas, readBack old publications = some metas ∧
    ∀ (leasedBuffer batchBuffer : ReassemblyBuffer) (batches : List (List FrameMeta)),
      batches.flatten = metas →
      (ownedReceiver.outputs none metas =
          leasedReceiver.outputs (leasedBuffer, none) metas ∧
        leasedReceiver.outputs (leasedBuffer, none) metas =
          (batchReceiver.batchOutputs batchBuffer batches).flatten) ∧
      ownedReceiver.outputs none metas = completed (publications.map (Publication.run F))

theorem agree_iff_of_carries {F : Type} [FramedTransportFrame F] (carries : Carries F)
    (positive : 0 < FramedTransportFrame.payloadCapacity F) (old : Nat → F)
    (publications : List Publication) :
    Agree F old publications ↔ Undisturbed (publications.map (Publication.run F)) := by
  have found := readBack_eq old carries positive publications
  constructor
  · rintro ⟨metas, read, agrees⟩
    obtain rfl := Option.some.inj (found.symm.trans read)
    exact undisturbed_of_agrees positive
      (agrees .new .new [_] (List.flatten_singleton)).2
  · intro undisturbed
    have owned := owned_agrees positive undisturbed
    refine ⟨_, found, fun leasedBuffer batchBuffer batches cut => ⟨⟨?_, ?_⟩, owned⟩⟩
    · rw [leased_outputs]
    · rw [leased_outputs, owned, Transducer.batchOutputs_flatten, cut, batch_stream positive]

/-- With frames of either type the receivers agree exactly where no complete message
follows an abandoned one. -/
theorem receivers_agree_iff (dataBytes : Nat) (positive : 1 ≤ dataBytes)
    (bounded : dataBytes < 2 ^ 32) (publications : List Publication) :
    (∀ old, Agree (FixedFrame dataBytes) old publications ↔
      Undisturbed (publications.map (Publication.run (FixedFrame dataBytes)))) ∧
    ∀ old, Agree (AlignedFixedFrame dataBytes) old publications ↔
      Undisturbed (publications.map (Publication.run (AlignedFixedFrame dataBytes))) :=
  ⟨fun old => agree_iff_of_carries (fixedFrame_carries bounded) positive old publications,
    fun old => agree_iff_of_carries (alignedFixedFrame_carries bounded) positive old publications⟩

/-- A message of two frames is abandoned after one, and one of a single frame follows. -/
def abandonedThenSingle : List Publication :=
  [{ messageId := 1, message := ⟨1, [10, 11, 12]⟩, failsAfter := some 1 },
    { messageId := 2, message := ⟨2, [20]⟩, failsAfter := none }]

def emptyFrame (dataBytes : Nat) : FixedFrame dataBytes :=
  { len := 0, kind := 0, flags := 0, msgId := 0, data := List.replicate dataBytes 0
    sized := List.length_replicate }

theorem receivers_agree_iff_abandoned :
    Agree (FixedFrame 2) (fun _ => emptyFrame 2) abandonedThenSingle ↔
      Undisturbed (abandonedThenSingle.map (Publication.run (FixedFrame 2))) :=
  (receivers_agree_iff 2 (by decide) (by decide) abandonedThenSingle).1 _

/-- The message behind the abandoned one reaches the batch receiver, and neither of the
others. -/
theorem abandoned_hides_single : ∃ metas,
    readBack (fun _ => emptyFrame 2) abandonedThenSingle = some metas ∧
    ownedReceiver.outputs none metas = [] ∧
    leasedReceiver.outputs (.new, none) metas = [] ∧
    batchReceiver.outputs .new metas = [⟨2, [20]⟩] :=
  ⟨_, rfl, by decide, by decide, by decide⟩

end Framing
