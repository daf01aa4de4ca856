/-
When a receiver hands over whole messages only.

A reader may start inside of a message, and publications may be cut short. The owned
receiver goes wrong where a message it has not seen from its first frame, or one that
was abandoned, is completed by some last frame; the batch receiver only where it
starts inside of a message whose id is the one of its empty buffer.
-/

import Myelon.Framing.Agreement

namespace Framing

open Streaming

variable {chunkSize : Nat}

/-! ### Where a reader starts -/

def remaining : Nat → List (Run chunkSize) → Nat × List (Run chunkSize)
  | _, [] => (0, [])
  | start, run :: rest =>
      if start < run.emitted then (start, run :: rest)
      else remaining (start - run.emitted) rest

def NoStray (messageId : Nat) (runs : List (Run chunkSize)) : Prop :=
  ∀ run ∈ runs, run.Complete → run.messageId ≠ messageId

/-- The first run that was cut short after some frame is not completed by another. -/
def Unmerged : List (Run chunkSize) → Prop
  | [] => True
  | run :: rest =>
      if run.Complete ∨ run.emitted = 0 then Unmerged rest else NoStray run.messageId rest

/-- When the owned and the leased receiver hand over whole messages only. -/
def OwnedSafe : Nat × List (Run chunkSize) → Prop
  | (0, runs) => Unmerged runs
  | (_ + 1, []) => True
  | (_ + 1, run :: rest) => ¬ run.Complete ∧ NoStray run.messageId rest

/-- When the batch receiver does, with a buffer that is new. -/
def BatchSafe : Nat × List (Run chunkSize) → Prop
  | (0, _) => True
  | (_ + 1, []) => True
  | (_ + 1, run :: _) => run.messageId = 0 → ¬ run.Complete

theorem remaining_spec (start : Nat) (runs : List (Run chunkSize)) :
    ∃ dropped, runs = dropped ++ (remaining start runs).2 ∧
      (stream runs).drop start =
        (stream (remaining start runs).2).drop (remaining start runs).1 ∧
      ∀ run rest, (remaining start runs).2 = run :: rest →
        start = (stream dropped).length + (remaining start runs).1 ∧
          (remaining start runs).1 < run.emitted := by
  induction runs generalizing start with
  | nil => exact ⟨[], rfl, List.drop_nil, fun _ _ impossible => nomatch impossible⟩
  | cons head tail ih =>
      unfold remaining
      by_cases inside : start < head.emitted
      · rw [if_pos inside]
        refine ⟨[], rfl, rfl, fun run rest same => ?_⟩
        obtain ⟨rfl, rfl⟩ := List.cons.inj same
        exact ⟨(Nat.zero_add _).symm, inside⟩
      · rw [if_neg inside]
        obtain ⟨dropped, split, here, placed⟩ := ih (start - head.emitted)
        refine ⟨head :: dropped, congrArg (head :: ·) split, ?_, fun run rest same => ?_⟩
        · rw [← here, stream_cons, List.drop_append, Run.frames_length,
            List.drop_of_length_le (by rw [Run.frames_length]; omega), List.nil_append]
        · obtain ⟨position, within⟩ := placed run rest same
          rw [stream_cons, List.length_append, Run.frames_length]
          exact ⟨by omega, within⟩

theorem stream_drop_cons {run : Run chunkSize} (rest : List (Run chunkSize)) {offset : Nat}
    (within : offset < run.emitted) :
    (stream (run :: rest)).drop offset = run.framesAfter offset ++ stream rest := by
  rw [stream_cons, List.drop_append_of_le_length (by rw [Run.frames_length]; omega),
    Run.frames_drop]

/-! ### The conditions are enough -/

theorem owned_stuck {runs : List (Run chunkSize)} {pending : PartialMessage}
    (alone : NoStray pending.messageMeta.msgId runs) :
    ownedReceiver.outputs (some pending) (stream runs) = [] := by
  induction runs generalizing pending with
  | nil => rfl
  | cons run rest ih =>
      have later : NoStray pending.messageMeta.msgId rest := fun other member =>
        alone other (List.mem_cons_of_mem _ member)
      rw [stream_cons, Transducer.outputs_append]
      by_cases same : pending.messageMeta.msgId = run.messageId
      · have cut : ¬ run.Complete := fun complete =>
          alone run List.mem_cons_self complete same.symm
        obtain ⟨after, outputs⟩ := owned_waits same rfl cut
        let waiting : PartialMessage :=
          { pending with
            payload :=
              pending.payload ++ payloadFrom chunkSize run.message.payload 0 run.emitted }
        have stuck : ownedReceiver.outputs (some waiting) (stream rest) = [] := ih later
        rw [outputs, after, List.nil_append]
        exact stuck
      · obtain ⟨after, outputs⟩ := owned_ignores same
        rw [outputs, after, List.nil_append]
        exact ih later

theorem owned_unmerged (positive : 0 < chunkSize) {runs : List (Run chunkSize)}
    (unmerged : Unmerged runs) :
    ∀ message ∈ ownedReceiver.outputs none (stream runs), message ∈ runs.map Run.message := by
  induction runs with
  | nil => exact fun _ impossible => absurd impossible List.not_mem_nil
  | cons run rest ih =>
      intro message handed
      rw [stream_cons, Transducer.outputs_append] at handed
      unfold Unmerged at unmerged
      split at unmerged
      · rename_i either
        by_cases complete : run.Complete
        · obtain ⟨after, outputs⟩ := owned_complete positive complete complete.emitted_pos
          rw [Run.frames, after, outputs, Nat.zero_mul, List.drop_zero] at handed
          rcases List.mem_cons.mp handed with rfl | later
          · exact List.mem_cons_self
          · exact List.mem_cons_of_mem _ (ih unmerged message later)
        · rw [frames_empty (either.resolve_left complete)] at handed
          exact List.mem_cons_of_mem _ (ih unmerged message handed)
      · rename_i neither
        obtain ⟨cut, some⟩ := not_or.mp neither
        obtain ⟨after, outputs⟩ := owned_cut cut (Nat.pos_of_ne_zero some)
        rw [Run.frames, outputs, after, owned_stuck unmerged] at handed
        exact absurd handed List.not_mem_nil

theorem owned_safe (positive : 0 < chunkSize) {start : Nat} {runs : List (Run chunkSize)}
    (safe : OwnedSafe (remaining start runs)) :
    ∀ message ∈ ownedReceiver.outputs none ((stream runs).drop start),
      message ∈ runs.map Run.message := by
  obtain ⟨dropped, split, here, placed⟩ := remaining_spec start runs
  intro message handed
  rw [here] at handed
  rw [split, List.map_append]
  refine List.mem_append_right _ ?_
  generalize remaining start runs = place at *
  obtain ⟨offset, left⟩ := place
  cases offset with
  | zero => exact owned_unmerged positive safe message handed
  | succ more =>
      cases left with
      | nil =>
          rw [stream_nil, List.drop_nil] at handed
          exact absurd handed List.not_mem_nil
      | cons run rest =>
          obtain ⟨_position, within⟩ := placed run rest rfl
          obtain ⟨cut, alone⟩ := safe
          obtain ⟨after, outputs⟩ := owned_cut cut within
          rw [stream_drop_cons rest within, Transducer.outputs_append, outputs, after,
            owned_stuck alone] at handed
          exact absurd handed List.not_mem_nil

theorem batch_safe (positive : 0 < chunkSize) {start : Nat} {runs : List (Run chunkSize)}
    (safe : BatchSafe (remaining start runs)) :
    ∀ message ∈ batchReceiver.outputs .new ((stream runs).drop start),
      message ∈ runs.map Run.message := by
  obtain ⟨dropped, split, here, placed⟩ := remaining_spec start runs
  intro message handed
  rw [here] at handed
  rw [split, List.map_append]
  refine List.mem_append_right _ ?_
  generalize remaining start runs = place at *
  obtain ⟨offset, left⟩ := place
  cases offset with
  | zero =>
      rw [List.drop_zero, batch_stream positive] at handed
      exact completed_subset handed
  | succ more =>
      cases left with
      | nil =>
          rw [stream_nil, List.drop_nil] at handed
          exact absurd handed List.not_mem_nil
      | cons run rest =>
          obtain ⟨_position, within⟩ := placed run rest rfl
          rw [stream_drop_cons rest within, Transducer.outputs_append, batch_stream positive]
            at handed
          have nothing : batchReceiver.outputs .new (run.framesAfter (more + 1)) = [] := by
            by_cases same : run.messageId = 0
            · have bound := run.within
              have cut : ¬ run.Complete := safe same
              have early : more + 1 + (run.emitted - (more + 1)) <
                  frameCount chunkSize run.message.payload := by omega
              exact (batch_collects same.symm (Nat.succ_pos more) early).2
            · exact (batch_passes (Ne.symm same) (Nat.succ_pos more) _).2
          rw [nothing, List.nil_append] at handed
          exact List.mem_cons_of_mem _ (completed_subset handed)

/-! ### The conditions are necessary -/

def Run.shape (run : Run chunkSize) : Nat × Nat × Bool :=
  (run.messageId, run.emitted, run.emitted == frameCount chunkSize run.message.payload)

theorem shape_eq {run other : Run chunkSize} (same : run.shape = other.shape) :
    run.messageId = other.messageId ∧ run.emitted = other.emitted ∧
      (run.Complete ↔ other.Complete) := by
  simp only [Run.shape, Prod.mk.injEq] at same
  obtain ⟨id, emitted, complete⟩ := same
  exact ⟨id, emitted, beq_iff_eq.symm.trans ((Bool.eq_iff_iff.mp complete).trans beq_iff_eq)⟩

theorem sameShape_cons {run : Run chunkSize} {rest others : List (Run chunkSize)}
    (same : (run :: rest).map Run.shape = others.map Run.shape) :
    ∃ other later, others = other :: later ∧ rest.map Run.shape = later.map Run.shape ∧
      run.messageId = other.messageId ∧ run.emitted = other.emitted ∧
      (run.Complete ↔ other.Complete) := by
  cases others with
  | nil => cases same
  | cons other later =>
      obtain ⟨first, tail⟩ := List.cons.inj same
      exact ⟨other, later, rfl, tail, shape_eq first⟩

theorem noStray_shape {runs others : List (Run chunkSize)} {messageId : Nat}
    (same : runs.map Run.shape = others.map Run.shape) (alone : NoStray messageId runs) :
    NoStray messageId others := by
  induction runs generalizing others with
  | nil =>
      obtain rfl := List.map_eq_nil_iff.mp same.symm
      exact alone
  | cons run rest ih =>
      obtain ⟨other, later, rfl, tail, id, _emitted, complete⟩ := sameShape_cons same
      intro reached member done
      rcases List.mem_cons.mp member with rfl | behind
      · rw [← id]
        exact alone run List.mem_cons_self (complete.mpr done)
      · exact ih tail (fun first member => alone first (List.mem_cons_of_mem _ member)) reached
          behind done

theorem unmerged_shape {runs others : List (Run chunkSize)}
    (same : runs.map Run.shape = others.map Run.shape) (unmerged : Unmerged runs) :
    Unmerged others := by
  induction runs generalizing others with
  | nil =>
      obtain rfl := List.map_eq_nil_iff.mp same.symm
      trivial
  | cons run rest ih =>
      obtain ⟨other, later, rfl, tail, id, emitted, complete⟩ := sameShape_cons same
      have either : run.Complete ∨ run.emitted = 0 ↔ other.Complete ∨ other.emitted = 0 :=
        or_congr complete (by rw [emitted])
      by_cases passes : other.Complete ∨ other.emitted = 0
      · rw [Unmerged, if_pos (either.mpr passes)] at unmerged
        rw [Unmerged, if_pos passes]
        exact ih tail unmerged
      · rw [Unmerged, if_neg fun met => passes (either.mp met), id] at unmerged
        rw [Unmerged, if_neg passes]
        exact noStray_shape tail unmerged

theorem remaining_shape {runs others : List (Run chunkSize)} (start : Nat)
    (same : runs.map Run.shape = others.map Run.shape) :
    (remaining start runs).1 = (remaining start others).1 ∧
      (remaining start runs).2.map Run.shape = (remaining start others).2.map Run.shape := by
  induction runs generalizing others start with
  | nil =>
      obtain rfl := List.map_eq_nil_iff.mp same.symm
      exact ⟨rfl, rfl⟩
  | cons run rest ih =>
      obtain ⟨other, later, rfl, tail, _id, emitted, _complete⟩ := sameShape_cons same
      unfold remaining
      rw [emitted]
      split
      · exact ⟨rfl, same⟩
      · exact ih _ tail

theorem ownedSafe_shape {runs others : List (Run chunkSize)} {start : Nat}
    (same : runs.map Run.shape = others.map Run.shape)
    (safe : OwnedSafe (remaining start runs)) : OwnedSafe (remaining start others) := by
  obtain ⟨offsets, lists⟩ := remaining_shape start same
  generalize remaining start runs = first at *
  generalize remaining start others = second at *
  obtain ⟨offset, left⟩ := first
  obtain ⟨_offset, right⟩ := second
  obtain rfl := offsets
  cases offset with
  | zero => exact unmerged_shape lists safe
  | succ more =>
      cases left with
      | nil =>
          obtain rfl := List.map_eq_nil_iff.mp lists.symm
          trivial
      | cons run rest =>
          obtain ⟨other, later, rfl, tail, id, _emitted, complete⟩ := sameShape_cons lists
          exact ⟨fun done => safe.1 (complete.mpr done), id ▸ noStray_shape tail safe.2⟩

theorem batchSafe_shape {runs others : List (Run chunkSize)} {start : Nat}
    (same : runs.map Run.shape = others.map Run.shape)
    (safe : BatchSafe (remaining start runs)) : BatchSafe (remaining start others) := by
  obtain ⟨offsets, lists⟩ := remaining_shape start same
  generalize remaining start runs = first at *
  generalize remaining start others = second at *
  obtain ⟨offset, left⟩ := first
  obtain ⟨_offset, right⟩ := second
  obtain rfl := offsets
  cases offset with
  | zero => trivial
  | succ more =>
      cases left with
      | nil =>
          obtain rfl := List.map_eq_nil_iff.mp lists.symm
          trivial
      | cons run rest =>
          obtain ⟨other, later, rfl, _tail, id, _emitted, complete⟩ := sameShape_cons lists
          exact fun zero done => safe (id.trans zero) (complete.mpr done)

/-! ### Contents that show a failure -/

def Message.painted (kind byte : UInt8) (message : Message) : Message :=
  { kind, payload := List.replicate message.payload.length byte }

def Publication.painted (kind byte : UInt8) (publication : Publication) : Publication :=
  { publication with message := publication.message.painted kind byte }

def Publication.shape (publication : Publication) : Nat × Nat × Option Nat :=
  (publication.messageId, publication.message.payload.length, publication.failsAfter)

theorem painted_shape (kind byte : UInt8) (publication : Publication) :
    (publication.painted kind byte).shape = publication.shape := by
  simp only [Publication.shape, Publication.painted, Message.painted, List.length_replicate]

theorem run_shape {F : Type} [FramedTransportFrame F] {publications others : List Publication}
    (same : publications.map Publication.shape = others.map Publication.shape) :
    (publications.map (Publication.run F)).map Run.shape =
      (others.map (Publication.run F)).map Run.shape := by
  induction publications generalizing others with
  | nil =>
      obtain rfl := List.map_eq_nil_iff.mp same.symm
      rfl
  | cons publication rest ih =>
      cases others with
      | nil => cases same
      | cons other later =>
          obtain ⟨first, tail⟩ := List.cons.inj same
          simp only [Publication.shape, Prod.mk.injEq] at first
          obtain ⟨id, length, fails⟩ := first
          have count := frameCount_length (FramedTransportFrame.payloadCapacity F) length
          rw [List.map_cons, List.map_cons, List.map_cons, List.map_cons, ih tail]
          simp only [Run.shape, Publication.run, id, fails, count]

theorem owned_stray (positive : 0 < chunkSize) {runs : List (Run chunkSize)}
    {pending : PartialMessage}
    (ones : ∀ run ∈ runs, ∀ byte ∈ run.message.payload, byte = 1)
    (stray : ¬ NoStray pending.messageMeta.msgId runs) :
    ∃ message ∈ ownedReceiver.outputs (some pending) (stream runs),
      message.kind = pending.messageMeta.kind ∧
      ∃ more, (∀ byte ∈ more, byte = 1) ∧ message.payload = pending.payload ++ more := by
  induction runs generalizing pending with
  | nil => exact absurd (fun _ impossible => absurd impossible List.not_mem_nil) stray
  | cons run rest ih =>
      have onesRest : ∀ other ∈ rest, ∀ byte ∈ other.message.payload, byte = 1 :=
        fun other member => ones other (List.mem_cons_of_mem _ member)
      rw [stream_cons, Transducer.outputs_append]
      by_cases same : pending.messageMeta.msgId = run.messageId
      · by_cases complete : run.Complete
        · obtain ⟨_after, outputs⟩ := owned_merges positive same rfl complete
          rw [outputs]
          exact ⟨_, List.mem_cons_self, rfl, _, ones run List.mem_cons_self, rfl⟩
        · obtain ⟨after, outputs⟩ := owned_waits same rfl complete
          let waiting : PartialMessage :=
            { pending with
              payload :=
                pending.payload ++ payloadFrom chunkSize run.message.payload 0 run.emitted }
          have strayRest : ¬ NoStray waiting.messageMeta.msgId rest := by
            intro alone
            refine stray fun other member done => ?_
            rcases List.mem_cons.mp member with rfl | behind
            · exact absurd done complete
            · exact alone other behind done
          obtain ⟨message, handed, kind, more, onesMore, payload⟩ := ih onesRest strayRest
          rw [outputs, after, List.nil_append]
          refine ⟨message, handed, kind, _, ?_, payload.trans (List.append_assoc _ _ _)⟩
          intro byte member
          rcases List.mem_append.mp member with early | late
          · exact ones run List.mem_cons_self byte
              (List.mem_of_mem_drop (List.mem_of_mem_take early))
          · exact onesMore byte late
      · obtain ⟨after, outputs⟩ := owned_ignores same
        have strayRest : ¬ NoStray pending.messageMeta.msgId rest := by
          intro alone
          refine stray fun other member done => ?_
          rcases List.mem_cons.mp member with rfl | behind
          · exact Ne.symm same
          · exact alone other behind done
        rw [outputs, after, List.nil_append]
        exact ih onesRest strayRest

/-- A message of zeros that is begun inside, or abandoned and completed by another, is
handed over with its kind and with other bytes. -/
theorem owned_fails (positive : 0 < chunkSize) {run : Run chunkSize}
    {later : List (Run chunkSize)} {offset : Nat} (within : offset < run.emitted)
    (zeros : ∀ byte ∈ run.message.payload, byte = 0)
    (ones : ∀ run ∈ later, ∀ byte ∈ run.message.payload, byte = 1)
    (fails : run.Complete ∧ 0 < offset ∨ ¬ run.Complete ∧ ¬ NoStray run.messageId later) :
    ∃ message ∈ ownedReceiver.outputs none (run.framesAfter offset ++ stream later),
      message.kind = run.message.kind ∧ message ≠ run.message := by
  have bound := run.within
  have size := Nat.mul_pos (show 0 < run.emitted by omega) positive
  rw [Transducer.outputs_append]
  rcases fails with ⟨complete, inside⟩ | ⟨cut, stray⟩
  · obtain ⟨_after, outputs⟩ := owned_complete positive complete within
    rw [outputs]
    refine ⟨_, List.mem_append_left _ List.mem_cons_self, rfl, fun same => ?_⟩
    have shorter := congrArg (fun message => message.payload.length) same
    simp only [List.length_drop] at shorter
    have dropped := Nat.mul_pos inside positive
    have first : 0 < frameCount chunkSize run.message.payload := frameCount_pos _ _
    have several : ¬ run.message.payload.length ≤ (0 + 1) * chunkSize := fun reached =>
      absurd ((reaches_end positive first).mp reached) (by omega)
    omega
  · obtain ⟨after, outputs⟩ := owned_cut cut within
    let waiting : PartialMessage :=
      { messageMeta := { kind := run.message.kind, msgId := run.messageId }
        payload := payloadFrom chunkSize run.message.payload offset (run.emitted - offset) }
    obtain ⟨message, handed, kind, more, onesMore, payload⟩ :=
      owned_stray positive ones (show ¬ NoStray waiting.messageMeta.msgId later from stray)
    rw [outputs, after, List.nil_append]
    refine ⟨message, handed, kind, fun same => ?_⟩
    rw [same] at payload
    have none : more = [] := by
      refine List.eq_nil_iff_forall_not_mem.mpr fun byte member => ?_
      have zero := zeros byte (payload ▸ List.mem_append_right _ member)
      exact absurd ((onesMore byte member).symm.trans zero) (by decide)
    have early : offset + (run.emitted - offset) < frameCount chunkSize run.message.payload := by
      omega
    have length : run.message.payload.length = (run.emitted - offset) * chunkSize := by
      rw [payload, none, List.append_nil]
      exact payloadFrom_length positive early
    have last : run.emitted - 1 < frameCount chunkSize run.message.payload := by omega
    have short : ¬ run.message.payload.length ≤ (run.emitted - 1 + 1) * chunkSize :=
      fun reached => absurd ((reaches_end positive last).mp reached) (by omega)
    refine short (length ▸ Nat.mul_le_mul_right _ ?_)
    omega

/-! ### A failure in a stream -/

theorem unmerged_split {runs : List (Run chunkSize)} (merged : ¬ Unmerged runs) :
    ∃ earlier marked later, runs = earlier ++ marked :: later ∧
      (∀ run ∈ earlier, run.Complete ∨ run.emitted = 0) ∧
      0 < marked.emitted ∧ ¬ marked.Complete ∧ ¬ NoStray marked.messageId later := by
  induction runs with
  | nil => exact absurd trivial merged
  | cons run rest ih =>
      by_cases passes : run.Complete ∨ run.emitted = 0
      · rw [Unmerged, if_pos passes] at merged
        obtain ⟨earlier, marked, later, rfl, before, found⟩ := ih merged
        refine ⟨run :: earlier, marked, later, rfl, fun other member => ?_, found⟩
        rcases List.mem_cons.mp member with rfl | behind
        · exact passes
        · exact before other behind
      · rw [Unmerged, if_neg passes] at merged
        obtain ⟨cut, nonempty⟩ := not_or.mp passes
        exact ⟨[], run, rest, rfl, fun _ impossible => absurd impossible List.not_mem_nil,
          Nat.pos_of_ne_zero nonempty, cut, merged⟩

theorem unsafe_split {start : Nat} {runs : List (Run chunkSize)}
    (wrong : ¬ OwnedSafe (remaining start runs)) :
    ∃ dropped earlier marked later offset, runs = dropped ++ (earlier ++ marked :: later) ∧
      start = (stream dropped).length + offset ∧ (offset = 0 ∨ earlier = []) ∧
      (∀ run ∈ earlier, run.Complete ∨ run.emitted = 0) ∧ offset < marked.emitted ∧
      (marked.Complete ∧ 0 < offset ∨
        ¬ marked.Complete ∧ ¬ NoStray marked.messageId later) := by
  obtain ⟨dropped, split, _here, placed⟩ := remaining_spec start runs
  generalize remaining start runs = place at *
  obtain ⟨offset, left⟩ := place
  cases offset with
  | zero =>
      obtain ⟨earlier, marked, later, rfl, before, nonempty, cut, stray⟩ := unmerged_split wrong
      have position : start = (stream dropped).length + 0 := by
        cases earlier with
        | nil => exact (placed marked later rfl).1
        | cons first rest => exact (placed first (rest ++ marked :: later) rfl).1
      exact ⟨dropped, earlier, marked, later, 0, split, position, .inl rfl, before, nonempty,
        .inr ⟨cut, stray⟩⟩
  | succ more =>
      cases left with
      | nil => exact absurd trivial wrong
      | cons run rest =>
          obtain ⟨position, within⟩ := placed run rest rfl
          refine ⟨dropped, [], run, rest, more + 1, split, position, .inr rfl,
            fun _ impossible => absurd impossible List.not_mem_nil, within, ?_⟩
          by_cases complete : run.Complete
          · exact .inl ⟨complete, Nat.succ_pos more⟩
          · exact .inr ⟨complete, fun alone => wrong ⟨complete, alone⟩⟩

theorem owned_over (positive : 0 < chunkSize) {runs : List (Run chunkSize)}
    (passed : ∀ run ∈ runs, run.Complete ∨ run.emitted = 0) :
    ownedReceiver.after none (stream runs) = none := by
  induction runs with
  | nil => rfl
  | cons run rest ih =>
      have later := ih fun other member => passed other (List.mem_cons_of_mem _ member)
      rw [stream_cons, Transducer.after_append]
      by_cases complete : run.Complete
      · rw [Run.frames, (owned_complete positive complete complete.emitted_pos).1]
        exact later
      · rw [frames_empty ((passed run List.mem_cons_self).resolve_left complete)]
        exact later

theorem stream_length_shape {runs others : List (Run chunkSize)}
    (same : runs.map Run.shape = others.map Run.shape) :
    (stream runs).length = (stream others).length := by
  induction runs generalizing others with
  | nil =>
      obtain rfl := List.map_eq_nil_iff.mp same.symm
      rfl
  | cons run rest ih =>
      obtain ⟨other, later, rfl, tail, _id, emitted, _complete⟩ := sameShape_cons same
      rw [stream_cons, stream_cons, List.length_append, List.length_append, Run.frames_length,
        Run.frames_length, emitted, ih tail]

theorem passed_shape {runs others : List (Run chunkSize)}
    (same : runs.map Run.shape = others.map Run.shape)
    (passed : ∀ run ∈ runs, run.Complete ∨ run.emitted = 0) :
    ∀ run ∈ others, run.Complete ∨ run.emitted = 0 := by
  induction runs generalizing others with
  | nil =>
      obtain rfl := List.map_eq_nil_iff.mp same.symm
      exact fun _ impossible => absurd impossible List.not_mem_nil
  | cons run rest ih =>
      obtain ⟨other, later, rfl, tail, _id, emitted, complete⟩ := sameShape_cons same
      intro reached member
      rcases List.mem_cons.mp member with rfl | behind
      · rw [← complete, ← emitted]
        exact passed run List.mem_cons_self
      · exact ih tail (fun first member => passed first (List.mem_cons_of_mem _ member)) reached
          behind

/-! ### Every shape of what publications leave behind -/

section Publications

variable {F State : Type} [FramedTransportFrame F]

/-- From a position on, every message that is handed over was published. -/
def HandsOverWhole (old : Nat → F) (machine : Transducer State FrameMeta Message)
    (state : State) (start : Nat) (publications : List Publication) : Prop :=
  ∃ metas, readBack old publications = some metas ∧
    ∀ message ∈ machine.outputs state (metas.drop start),
      message ∈ publications.map Publication.message

/-- The same for all messages of the same lengths, whatever their contents. -/
def AlwaysWhole (old : Nat → F) (machine : Transducer State FrameMeta Message)
    (state : State) (start : Nat) (publications : List Publication) : Prop :=
  ∀ others : List Publication,
    others.map Publication.shape = publications.map Publication.shape →
    HandsOverWhole old machine state start others

variable (carries : Carries F) (positive : 0 < FramedTransportFrame.payloadCapacity F)
  (old : Nat → F) (start : Nat) (publications : List Publication)

theorem map_run_message (publications : List Publication) :
    (publications.map (Publication.run F)).map Run.message =
      publications.map Publication.message := by
  rw [List.map_map]
  rfl

theorem painted_run_shape (kind byte : UInt8) (publications : List Publication) :
    ((publications.map (Publication.painted kind byte)).map (Publication.run F)).map Run.shape =
      (publications.map (Publication.run F)).map Run.shape := by
  refine run_shape ?_
  rw [List.map_map]
  exact List.map_congr_left fun publication _ => painted_shape kind byte publication

/-- All messages are full of ones, but one that is full of zeros and of another kind. -/
def marking (before : List Publication) (marked : Publication) (after : List Publication) :
    List Publication :=
  before.map (Publication.painted 0 1) ++
    marked.painted 1 0 :: after.map (Publication.painted 0 1)

theorem marking_shape (before : List Publication) (marked : Publication)
    (after : List Publication) :
    (marking before marked after).map Publication.shape =
      (before ++ marked :: after).map Publication.shape := by
  have painted : ∀ publications : List Publication,
      (publications.map (Publication.painted 0 1)).map Publication.shape =
        publications.map Publication.shape := by
    intro publications
    rw [List.map_map]
    exact List.map_congr_left fun publication _ => painted_shape 0 1 publication
  rw [marking, List.map_append, List.map_append, List.map_cons, List.map_cons, painted, painted,
    painted_shape]

theorem marking_kind {before after : List Publication} {marked : Publication}
    {message : Message}
    (member : message ∈ (marking before marked after).map Publication.message)
    (kind : message.kind = 1) : message = (marked.painted 1 0).message := by
  obtain ⟨publication, found, rfl⟩ := List.mem_map.mp member
  have plain : ∀ publications : List Publication,
      publication ∈ publications.map (Publication.painted 0 1) → False := by
    intro publications painted
    obtain ⟨original, _member, rfl⟩ := List.mem_map.mp painted
    have zero : (0 : UInt8) = 1 := kind
    exact absurd zero (by decide)
  rcases List.mem_append.mp found with early | rest
  · exact (plain before early).elim
  · rcases List.mem_cons.mp rest with rfl | late
    · rfl
    · exact (plain after late).elim

/-- What a reader with the frames of the marked message in front of it gets. -/
theorem marking_fails (positive : 0 < FramedTransportFrame.payloadCapacity F)
    {marked : Publication} {after : List Publication} {offset : Nat}
    (within : offset < (marked.run F).emitted)
    (fails : (marked.run F).Complete ∧ 0 < offset ∨ ¬ (marked.run F).Complete ∧
      ¬ NoStray (marked.run F).messageId (after.map (Publication.run F))) :
    ∃ message ∈ ownedReceiver.outputs none
        (((marked.painted 1 0).run F).framesAfter offset ++
          stream ((after.map (Publication.painted 0 1)).map (Publication.run F))),
      message.kind = 1 ∧ message ≠ (marked.painted 1 0).message := by
  have shape : ((marked.painted 1 0).run F).shape = (marked.run F).shape :=
    List.singleton_inj.mp (painted_run_shape 1 0 [marked])
  obtain ⟨id, emitted, complete⟩ := shape_eq shape
  refine owned_fails positive (by omega) (fun byte member => ?_) (fun run member => ?_) ?_
  · exact List.eq_of_mem_replicate member
  · obtain ⟨_painted, found, rfl⟩ := List.mem_map.mp member
    obtain ⟨original, _found, rfl⟩ := List.mem_map.mp found
    exact fun byte member => List.eq_of_mem_replicate member
  · rw [complete, id]
    refine fails.imp_right fun ⟨cut, stray⟩ => ⟨cut, fun alone => stray ?_⟩
    exact noStray_shape (painted_run_shape 0 1 after) alone

include carries positive

theorem owned_whole_iff : AlwaysWhole old ownedReceiver none start publications ↔
    OwnedSafe (remaining start (publications.map (Publication.run F))) := by
  constructor
  · intro whole
    refine Classical.byContradiction fun wrong => ?_
    obtain ⟨dropped, earlier, _marked, later, offset, split, rfl, either, passed, within,
      fails⟩ := unsafe_split wrong
    obtain ⟨first, others, rfl, rfl, tail⟩ := List.map_eq_append_iff.mp split
    obtain ⟨second, others, rfl, rfl, last⟩ := List.map_eq_append_iff.mp tail
    obtain ⟨marked, after, rfl, rfl, rfl⟩ := List.map_eq_cons_iff.mp last
    have same := marking_shape (first ++ second) marked after
    rw [List.append_assoc] at same
    obtain ⟨metas, read, whole⟩ := whole _ same
    obtain rfl := Option.some.inj ((readBack_eq old carries positive _).symm.trans read)
    obtain ⟨message, handed, kind, other⟩ := marking_fails positive within fails
    refine other (marking_kind (whole message ?_) kind)
    have shape : ((marked.painted 1 0).run F).shape = (marked.run F).shape :=
      List.singleton_inj.mp (painted_run_shape 1 0 [marked])
    have inside : offset < ((marked.painted 1 0).run F).emitted := by
      rw [(shape_eq shape).2.1]
      exact within
    have length := stream_length_shape (painted_run_shape (F := F) 0 1 first)
    have beyond := owned_over positive
      (passed_shape (painted_run_shape (F := F) 0 1 second).symm passed)
    rw [marking, List.map_append, List.map_append, List.map_append, List.append_assoc,
      stream_append, List.map_cons, stream_append, ← length, List.drop_append,
      List.drop_of_length_le (Nat.le_add_right _ _), List.nil_append, Nat.add_sub_cancel_left]
    rcases either with rfl | none
    · rw [List.drop_zero, Transducer.outputs_append, beyond]
      exact List.mem_append_right _ handed
    · obtain rfl := List.map_eq_nil_iff.mp none
      rw [List.map_nil, List.map_nil, stream_nil, List.nil_append, stream_drop_cons _ inside]
      exact handed
  · intro safe others same
    have shapes := run_shape (F := F) same.symm
    refine ⟨_, readBack_eq old carries positive others, ?_⟩
    rw [← map_run_message (F := F)]
    exact owned_safe positive (ownedSafe_shape shapes safe)

theorem leased_whole_iff (buffer : ReassemblyBuffer) :
    AlwaysWhole old leasedReceiver (buffer, none) start publications ↔
      OwnedSafe (remaining start (publications.map (Publication.run F))) := by
  rw [← owned_whole_iff carries positive old start publications]
  simp only [AlwaysWhole, HandsOverWhole, leased_outputs]

theorem batch_whole_iff : AlwaysWhole old batchReceiver .new start publications ↔
    BatchSafe (remaining start (publications.map (Publication.run F))) := by
  constructor
  · intro whole
    have shapes := painted_run_shape (F := F) 2 0 publications
    refine batchSafe_shape shapes ?_
    have same : (publications.map (Publication.painted 2 0)).map Publication.shape =
        publications.map Publication.shape := by
      rw [List.map_map]
      exact List.map_congr_left fun publication _ => painted_shape 2 0 publication
    obtain ⟨metas, read, handsOver⟩ := whole _ same
    obtain rfl := Option.some.inj ((readBack_eq old carries positive _).symm.trans read)
    have kinds : ∀ message ∈ (publications.map (Publication.painted 2 0)).map
        Publication.message, message.kind = 2 := by
      intro message member
      obtain ⟨_painted, found, rfl⟩ := List.mem_map.mp member
      obtain ⟨original, _found, rfl⟩ := List.mem_map.mp found
      rfl
    generalize (publications.map (Publication.painted 2 0)).map (Publication.run F) = runs at *
    obtain ⟨dropped, split, here, placed⟩ := remaining_spec start runs
    rw [here] at handsOver
    generalize remaining start runs = place at *
    obtain ⟨offset, left⟩ := place
    cases offset with
    | zero => trivial
    | succ more =>
        cases left with
        | nil => trivial
        | cons run rest =>
            intro zero complete
            obtain ⟨_position, within⟩ := placed run rest rfl
            have all : more + 1 + (run.emitted - (more + 1)) =
                frameCount (FramedTransportFrame.payloadCapacity F) run.message.payload := by
              omega
            have completes : batchReceiver.outputs .new (run.framesAfter (more + 1)) = _ :=
              batch_completes positive zero.symm (Nat.succ_pos more) all (by omega)
            rw [stream_drop_cons rest within, Transducer.outputs_append, completes] at handsOver
            have forged := kinds _ (handsOver _ (List.mem_append_left _ List.mem_cons_self))
            have empty : (0 : UInt8) = 2 := forged
            exact absurd empty (by decide)
  · intro safe others same
    have shapes := run_shape (F := F) same.symm
    refine ⟨_, readBack_eq old carries positive others, ?_⟩
    rw [← map_run_message (F := F)]
    exact batch_safe positive (batchSafe_shape shapes safe)

end Publications

/-- With frames of either type, and for messages of any contents, each receiver hands
over whole messages only exactly under its condition. -/
theorem whole_messages_iff (dataBytes : Nat) (positive : 1 ≤ dataBytes)
    (bounded : dataBytes < 2 ^ 32) (publications : List Publication) (start : Nat) :
    (∀ (old : Nat → FixedFrame dataBytes),
      (AlwaysWhole old ownedReceiver none start publications ↔ OwnedSafe
        (remaining start (publications.map (Publication.run (FixedFrame dataBytes))))) ∧
      (∀ buffer, AlwaysWhole old leasedReceiver (buffer, none) start publications ↔ OwnedSafe
        (remaining start (publications.map (Publication.run (FixedFrame dataBytes))))) ∧
      (AlwaysWhole old batchReceiver .new start publications ↔ BatchSafe
        (remaining start (publications.map (Publication.run (FixedFrame dataBytes)))))) ∧
    ∀ (old : Nat → AlignedFixedFrame dataBytes),
      (AlwaysWhole old ownedReceiver none start publications ↔ OwnedSafe
        (remaining start (publications.map (Publication.run (AlignedFixedFrame dataBytes))))) ∧
      (∀ buffer, AlwaysWhole old leasedReceiver (buffer, none) start publications ↔ OwnedSafe
        (remaining start (publications.map (Publication.run (AlignedFixedFrame dataBytes))))) ∧
      (AlwaysWhole old batchReceiver .new start publications ↔ BatchSafe
        (remaining start (publications.map (Publication.run (AlignedFixedFrame dataBytes))))) := by
  have fixed : Carries (FixedFrame dataBytes) := fixedFrame_carries bounded
  have aligned : Carries (AlignedFixedFrame dataBytes) := alignedFixedFrame_carries bounded
  refine ⟨fun old => ⟨?_, fun buffer => ?_, ?_⟩, fun old => ⟨?_, fun buffer => ?_, ?_⟩⟩
  · exact owned_whole_iff fixed positive old start publications
  · exact leased_whole_iff fixed positive old start publications buffer
  · exact batch_whole_iff fixed positive old start publications
  · exact owned_whole_iff aligned positive old start publications
  · exact leased_whole_iff aligned positive old start publications buffer
  · exact batch_whole_iff aligned positive old start publications

def twoFrames : List Publication :=
  [{ messageId := 1, message := ⟨1, [10, 11, 12, 13]⟩, failsAfter := none }]

theorem whole_messages_iff_twoFrames :
    AlwaysWhole (fun _ => emptyFrame 2) ownedReceiver none 1 twoFrames ↔
      OwnedSafe (remaining 1 (twoFrames.map (Publication.run (FixedFrame 2)))) :=
  ((whole_messages_iff 2 (by decide) (by decide) twoFrames 1).1 _).1

/-- A reader that starts at the second frame is handed the rest of the message. -/
theorem late_reader_truncates : ∃ metas,
    readBack (fun _ => emptyFrame 2) twoFrames = some metas ∧
    ownedReceiver.outputs none (metas.drop 1) = [⟨1, [12, 13]⟩] ∧
    leasedReceiver.outputs (.new, none) (metas.drop 1) = [⟨1, [12, 13]⟩] ∧
    (⟨1, [12, 13]⟩ : Message) ∉ twoFrames.map Publication.message :=
  ⟨_, rfl, by decide, by decide, by decide⟩

end Framing
