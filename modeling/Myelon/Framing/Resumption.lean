/-
What a receiver makes of the complete messages in a window of frames.

A receiver that starts inside of a message is done with it at its last frame. Of the messages
that lie in the window as a whole it puts out each, in order, whatever else it puts out.
-/

import Myelon.Framing.RoundTrip

namespace Framing

open Streaming

variable {chunkSize : Nat}

/-! ### Messages and where their frames lie -/

structure Span where
  first : Nat
  beyond : Nat
  message : Message
  deriving DecidableEq

def placed : Nat → List (Run chunkSize) → List Span
  | _, [] => []
  | start, run :: rest =>
      { first := start, beyond := start + run.emitted, message := run.message } ::
        placed (start + run.emitted) rest

theorem placed_bounds {start : Nat} {runs : List (Run chunkSize)} {span : Span}
    (member : span ∈ placed start runs) :
    start ≤ span.first ∧ span.first ≤ span.beyond ∧
      span.beyond ≤ start + (stream runs).length := by
  induction runs generalizing start with
  | nil => cases member
  | cons run rest ih =>
      rw [stream_cons, List.length_append, Run.frames_length]
      rcases List.mem_cons.mp member with rfl | later
      · simp only
        omega
      · obtain ⟨low, forward, high⟩ := ih later
        omega

theorem placed_nonempty {start : Nat} {runs : List (Run chunkSize)}
    (complete : ∀ run ∈ runs, run.Complete) {span : Span} (member : span ∈ placed start runs) :
    span.first < span.beyond := by
  induction runs generalizing start with
  | nil => cases member
  | cons run rest ih =>
      rcases List.mem_cons.mp member with rfl | later
      · exact Nat.lt_add_of_pos_right (complete run List.mem_cons_self).emitted_pos
      · exact ih (fun other member => complete other (List.mem_cons_of_mem _ member)) later

theorem placed_split (start position : Nat) (runs : List (Run chunkSize)) :
    ∃ early late, placed start runs = early ++ late ∧
      (∀ span ∈ early, span.beyond ≤ position) ∧ ∀ span ∈ late, position < span.beyond := by
  induction runs generalizing start with
  | nil =>
      exact ⟨[], [], rfl, fun _ impossible => absurd impossible List.not_mem_nil,
        fun _ impossible => absurd impossible List.not_mem_nil⟩
  | cons run rest ih =>
      by_cases past : start + run.emitted ≤ position
      · obtain ⟨early, late, split, before, behind⟩ := ih (start + run.emitted)
        refine ⟨_ :: early, late, congrArg (_ :: ·) split, ?_, behind⟩
        intro span member
        rcases List.mem_cons.mp member with rfl | later
        · exact past
        · exact before span later
      · refine ⟨[], _, rfl, fun _ impossible => absurd impossible List.not_mem_nil, ?_⟩
        intro span member
        rcases List.mem_cons.mp member with rfl | later
        · exact Nat.lt_of_not_le past
        · have bounds := placed_bounds later
          omega

/-! ### Receivers that resume -/

variable {Stage : Type}

/-- At rest a receiver puts out the message of the next run, and is at rest behind a run even
if it has not seen its first frames. -/
structure Resumes (receiver : Transducer Stage FrameMeta Message) (chunkSize : Nat)
    (rests : Stage → Prop) : Prop where
  whole : ∀ {stage} {run : Run chunkSize}, rests stage → run.Complete →
    receiver.outputs stage run.frames = [run.message] ∧ rests (receiver.after stage run.frames)
  cut : ∀ {stage} {run : Run chunkSize} {offset : Nat}, rests stage → run.Complete →
    offset < run.emitted → rests (receiver.after stage (run.framesAfter offset))

theorem owned_resumes (positive : 0 < chunkSize) :
    Resumes ownedReceiver chunkSize (· = none) where
  whole := by
    intro stage run rests complete
    subst rests
    obtain ⟨after, outputs⟩ := owned_complete positive complete complete.emitted_pos
    rw [Nat.zero_mul, List.drop_zero] at outputs
    exact ⟨outputs, after⟩
  cut := by
    intro stage run offset rests complete within
    subst rests
    exact (owned_complete positive complete within).1

theorem leased_resumes (positive : 0 < chunkSize) :
    Resumes leasedReceiver chunkSize (·.2 = none) := by
  have follows : ∀ (stage : ReassemblyBuffer × Option ReceivedMessageMeta)
      (frames : List FrameMeta), stage.2 = none → ownedReceiver.after none frames = none →
      (leasedReceiver.after stage frames).2 = none := by
    intro ⟨buffer, waiting⟩ frames rests after
    cases rests
    have same := leased_after buffer frames
    rw [after] at same
    rcases reached : leasedReceiver.after (buffer, none) frames with ⟨later, none | messageMeta⟩
    · rfl
    · rw [reached] at same
      exact same.elim
  constructor
  · intro stage run rests complete
    obtain ⟨outputs, after⟩ := (owned_resumes positive).whole rfl complete
    refine ⟨?_, follows stage run.frames rests after⟩
    obtain ⟨buffer, waiting⟩ := stage
    cases rests
    rw [leased_outputs, outputs]
  · intro stage run offset rests complete within
    exact follows stage _ rests ((owned_resumes positive).cut rfl complete within)

theorem batch_resumes (positive : 0 < chunkSize) :
    Resumes batchReceiver chunkSize (fun _ => True) where
  whole := fun _ complete => ⟨batch_complete positive _ complete, trivial⟩
  cut := fun _ _ _ => trivial

variable {receiver : Transducer Stage FrameMeta Message} {rests : Stage → Prop}

theorem Resumes.window (resumes : Resumes receiver chunkSize rests) {stage : Stage}
    (resting : rests stage) {runs : List (Run chunkSize)}
    (complete : ∀ run ∈ runs, run.Complete) {start count : Nat} {chosen : List Span}
    (among : chosen.Sublist (placed start runs))
    (inside : ∀ span ∈ chosen, span.beyond ≤ start + count) :
    (chosen.map Span.message).Sublist (receiver.outputs stage ((stream runs).take count)) := by
  induction runs generalizing stage start count chosen with
  | nil =>
      rw [List.sublist_nil.mp among]
      exact List.nil_sublist _
  | cons run rest ih =>
      have here : run.Complete := complete run List.mem_cons_self
      have later : ∀ other ∈ rest, other.Complete :=
        fun other member => complete other (List.mem_cons_of_mem _ member)
      by_cases all : run.emitted ≤ count
      · obtain ⟨outputs, after⟩ := resumes.whole resting here
        have split : (stream (run :: rest)).take count =
            run.frames ++ (stream rest).take (count - run.emitted) := by
          rw [stream_cons, List.take_append, Run.frames_length,
            List.take_of_length_le (by rw [Run.frames_length]; exact all)]
        rw [split, Transducer.outputs_append, outputs]
        have moved : ∀ span ∈ chosen, span.beyond ≤ start + run.emitted +
            (count - run.emitted) := by
          intro span member
          have bound := inside span member
          omega
        rcases List.sublist_cons_iff.mp among with others | ⟨more, rfl, others⟩
        · exact (ih after later others moved).trans (List.sublist_append_right _ _)
        · exact (ih after later others fun span member =>
            moved span (List.mem_cons_of_mem _ member)).cons_cons run.message
      · have none : chosen = [] := by
          apply List.eq_nil_iff_forall_not_mem.mpr
          intro span member
          have bound := inside span member
          have placed : start + run.emitted ≤ span.beyond := by
            rcases List.mem_cons.mp (among.subset member) with rfl | behind
            · exact Nat.le_refl _
            · have bounds := placed_bounds behind
              omega
          omega
        rw [none]
        exact List.nil_sublist _

theorem Resumes.outputs (resumes : Resumes receiver chunkSize rests) {stage : Stage}
    (resting : rests stage) {runs : List (Run chunkSize)}
    (complete : ∀ run ∈ runs, run.Complete) {start skipped count : Nat} {chosen : List Span}
    (among : chosen.Sublist (placed start runs))
    (inside : ∀ span ∈ chosen, start + skipped ≤ span.first ∧
      span.beyond ≤ start + skipped + count) :
    (chosen.map Span.message).Sublist
      (receiver.outputs stage (((stream runs).drop skipped).take count)) := by
  induction runs generalizing start skipped chosen with
  | nil =>
      rw [List.sublist_nil.mp among]
      exact List.nil_sublist _
  | cons run rest ih =>
      have here : run.Complete := complete run List.mem_cons_self
      have some := here.emitted_pos
      have later : ∀ other ∈ rest, other.Complete :=
        fun other member => complete other (List.mem_cons_of_mem _ member)
      rcases Nat.eq_zero_or_pos skipped with rfl | positive
      · rw [List.drop_zero]
        exact resumes.window resting complete among fun span member => (inside span member).2
      · have others : chosen.Sublist (placed (start + run.emitted) rest) := by
          rcases List.sublist_cons_iff.mp among with others | ⟨more, rfl, _others⟩
          · exact others
          · have bound := (inside _ List.mem_cons_self).1
            simp only at bound
            omega
        by_cases past : run.emitted ≤ skipped
        · have dropped : (stream (run :: rest)).drop skipped =
              (stream rest).drop (skipped - run.emitted) := by
            rw [stream_cons, List.drop_append, Run.frames_length,
              List.drop_of_length_le (by rw [Run.frames_length]; exact past), List.nil_append]
          rw [dropped]
          apply ih later others
          intro span member
          have bounds := inside span member
          omega
        · have within : skipped < run.emitted := Nat.lt_of_not_le past
          have dropped : (stream (run :: rest)).drop skipped =
              run.framesAfter skipped ++ stream rest := by
            rw [stream_cons, List.drop_append_of_le_length (by rw [Run.frames_length]; omega),
              Run.frames_drop]
          rw [dropped]
          by_cases inRun : count ≤ run.emitted - skipped
          · have none : chosen = [] := by
              apply List.eq_nil_iff_forall_not_mem.mpr
              intro span member
              have bounds := inside span member
              have behind := placed_bounds (others.subset member)
              have nonempty := placed_nonempty later (others.subset member)
              omega
            rw [none]
            exact List.nil_sublist _
          · rw [List.take_append, Run.framesAfter_length, List.take_of_length_le
              (by rw [Run.framesAfter_length]; omega), Transducer.outputs_append]
            have moved : ∀ span ∈ chosen, span.beyond ≤
                start + run.emitted + (count - (run.emitted - skipped)) := by
              intro span member
              have bounds := inside span member
              omega
            exact (resumes.window (resumes.cut resting here within) later others moved).trans
              (List.sublist_append_right _ _)

theorem Resumes.reaches (resumes : Resumes receiver chunkSize rests) {stage : Stage}
    (resting : rests stage) {runs : List (Run chunkSize)}
    (complete : ∀ run ∈ runs, run.Complete) {start skipped count : Nat} {span : Span}
    (member : span ∈ placed start runs) (inside : start + skipped ≤ span.first)
    (ends : span.beyond = start + skipped + count) :
    ∃ run : Run chunkSize, run.Complete ∧ ∃ middle,
      ((stream runs).drop skipped).take count = middle ++ run.frames ∧
      rests (receiver.after stage middle) := by
  induction runs generalizing stage start skipped count with
  | nil => cases member
  | cons run rest ih =>
      have here : run.Complete := complete run List.mem_cons_self
      have later : ∀ other ∈ rest, other.Complete :=
        fun other member => complete other (List.mem_cons_of_mem _ member)
      rcases List.mem_cons.mp member with rfl | behind
      · simp only at inside ends
        obtain rfl : skipped = 0 := by omega
        obtain rfl : count = run.emitted := by omega
        refine ⟨run, here, [], ?_, resting⟩
        rw [List.drop_zero, stream_cons, List.nil_append, List.take_append_of_le_length
          (by rw [Run.frames_length]), List.take_of_length_le (by rw [Run.frames_length])]
      · have bounds := placed_bounds behind
        by_cases past : run.emitted ≤ skipped
        · have dropped : (stream (run :: rest)).drop skipped =
              (stream rest).drop (skipped - run.emitted) := by
            rw [stream_cons, List.drop_append, Run.frames_length,
              List.drop_of_length_le (by rw [Run.frames_length]; exact past), List.nil_append]
          rw [dropped]
          exact ih resting later behind (by omega) (by omega)
        · have within : skipped < run.emitted := Nat.lt_of_not_le past
          have dropped : (stream (run :: rest)).drop skipped =
              run.framesAfter skipped ++ stream rest := by
            rw [stream_cons, List.drop_append_of_le_length (by rw [Run.frames_length]; omega),
              Run.frames_drop]
          have insideRest : start + run.emitted + 0 ≤ span.first := by omega
          have endsRest : span.beyond =
              start + run.emitted + 0 + (count - (run.emitted - skipped)) := by omega
          obtain ⟨other, whole, middle, split, rested⟩ :=
            ih (resumes.cut resting here within) later behind insideRest endsRest
          rw [List.drop_zero] at split
          refine ⟨other, whole, run.framesAfter skipped ++ middle, ?_, ?_⟩
          · rw [dropped, List.take_append, Run.framesAfter_length, List.take_of_length_le
              (by rw [Run.framesAfter_length]; omega), split, List.append_assoc]
          · rw [Transducer.after_append]
            exact rested

end Framing
