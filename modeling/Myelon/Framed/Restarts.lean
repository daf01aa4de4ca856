/-
What a consumer that crashes has still handed over.

A consumer goes on behind what it has committed, with a buffer that is new. So it hands over
every message whose frames it has committed, but for those that a crash cuts: some of their
frames were committed before the crash and the others only after it.
-/

import Myelon.Framed.Outcomes
import Myelon.Framing.Resumption

namespace Framed

open Interleaving Ring Framing Streaming Delivery

/-! ### Messages in a log with crashes -/

def spans : Nat → List (Nat × Reply) → List Span
  | _, [] => []
  | start, entry :: rest =>
      { first := start, beyond := entry.1, message := entry.2.message } :: spans entry.1 rest

theorem Matches.placed {chunkSize : Nat} {start : Nat} {runs : List (Run chunkSize)}
    {replies : List (Nat × Reply)} (matched : Matches start runs replies) :
    placed start runs = spans start replies := by
  induction matched with
  | nil start => rfl
  | @cons start run runs entry rest message _complete here _later ih =>
      rw [Framing.placed, spans, ← message, ← ih, here]

variable {F : Type} [FramedTransportFrame F]
variable {publishPaths : List PublishPath} {receivePaths : List ReceivePath}

/-- All frames of the message are committed, and no crash stands between two of them. -/
structure Uncut (log : Log F publishPaths receivePaths) (span : Span) : Prop where
  consumed : (span.beyond : Int) ≤ (position log).committed + 1
  uncut : ∀ before rest, log = before ++ .crash :: rest →
    (position before).committed + 1 ≤ span.first ∨ span.beyond ≤ (position before).committed + 1

def Survived (log : Log F publishPaths receivePaths) (span : Span) : Prop :=
  ∀ before rest, log = before ++ .commit (span.beyond - 1) :: rest →
    ∃ event more, rest = event :: more ∧ event ≠ .crash

/-! ### Logs that track a receiver -/

variable {Stage : Type} {receiver : Transducer Stage FrameMeta Message} {start : Stage}
variable {early : Stage → FrameMeta → Prop} {written : List F}

structure Recorded (receiver : Transducer Stage FrameMeta Message) (start : Stage)
    (early : Stage → FrameMeta → Prop) (written : List F)
    (log : Log F publishPaths receivePaths) : Prop where
  ordered : InOrder log
  faithful : Faithful written log
  tracked : Throughout (fun before event => event = .crash ∨
    Tracked receiver start early before event) log

theorem Recorded.front {log rest : Log F publishPaths receivePaths}
    (recorded : Recorded receiver start early written (log ++ rest)) :
    Recorded receiver start early written log where
  ordered := Throughout.front recorded.ordered
  faithful := fun event member => recorded.faithful event (List.mem_append_left _ member)
  tracked := Throughout.front recorded.tracked

variable {before life : Log F publishPaths receivePaths}

theorem Recorded.framesRead (recorded : Recorded receiver start early written (before ++ life))
    (uninterrupted : Event.crash ∉ life) :
    framesRead life = (written.take (position (before ++ life)).next.toNat).drop
      (position before).next.toNat := by
  have faithful : Faithful written life :=
    fun event member => recorded.faithful event (List.mem_append_right _ member)
  rw [Framed.framesRead, (reads_eq_segment before recorded.ordered faithful uninterrupted).2,
    List.map_drop, numbered_take, numbered_snd]

/-! ### One incarnation -/

theorem Recorded.given (recorded : Recorded receiver start early written (before ++ life))
    (begins : incarnation before = []) (uninterrupted : Event.crash ∉ life)
    {pending : List Message} (gives : Gives receiver start pending (before ++ life)) :
    ∃ metas, frameMetas ((written.take (position (before ++ life)).next.toNat).drop
        (position before).next.toNat) = some metas ∧
      receiver.outputs start metas = messages life ++ pending := by
  obtain ⟨_stage, metas, shown, _after, outputs⟩ := gives
  rw [incarnation_append before uninterrupted, begins, List.nil_append] at shown outputs
  rw [recorded.framesRead uninterrupted] at shown
  exact ⟨metas, shown, outputs⟩

theorem Recorded.read_gives (recorded : Recorded receiver start early written (before ++ life))
    (begins : incarnation before = []) (uninterrupted : Event.crash ∉ life)
    (further : (position before).next < (position (before ++ life)).next) :
    ∃ metas, frameMetas ((written.take ((position (before ++ life)).next - 1).toNat).drop
        (position before).next.toNat) = some metas ∧
      receiver.outputs start metas <+: messages life := by
  obtain ⟨earlier, value, later, split, next⟩ :=
    read_split recorded.ordered uninterrupted further
  generalize (position (before ++ life)).next - 1 = last at *
  subst split
  have alive : Event.crash ∉ earlier := fun member => uninterrupted (List.mem_append_left _ member)
  rw [← List.append_assoc] at recorded
  have gives := (recorded.tracked _ _ _ rfl).resolve_left (by simp)
  obtain ⟨metas, shown, outputs⟩ := recorded.front.given begins alive gives
  rw [next] at shown
  refine ⟨metas, shown, ?_⟩
  rw [outputs, List.append_nil, messages_append]
  exact List.prefix_append _ _

/-- A consumer that does not end where it has committed a frame, or did not commit it early,
has handed over what the frames up to that one make. -/
theorem Recorded.commit_gives {earlier later : Log F publishPaths receivePaths} {last : Int}
    (recorded : Recorded receiver start early written
      (before ++ (earlier ++ .commit last :: later)))
    (begins : incarnation before = [])
    (uninterrupted : Event.crash ∉ earlier ++ .commit last :: later)
    {metas : List FrameMeta} {final : FrameMeta}
    (shown : frameMetas ((written.take (last + 1).toNat).drop (position before).next.toNat) =
      some (metas ++ [final]))
    (timely : ¬ early (receiver.after start metas) final ∨ later ≠ []) :
    receiver.outputs start (metas ++ [final]) <+:
      messages (earlier ++ .commit last :: later) := by
  rw [List.mem_append, List.mem_cons, not_or, not_or] at uninterrupted
  obtain ⟨alive, _commit, aliveLater⟩ := uninterrupted
  rw [← List.append_assoc] at recorded
  have fits := recorded.ordered _ _ _ rfl
  have next : (position (before ++ earlier)).next = last + 1 := fits.2.symm
  have quiet : ∀ more : Log F publishPaths receivePaths,
      messages (earlier ++ .commit last :: more) = messages earlier ++ messages more :=
    fun more => messages_append earlier _
  rcases timely with late | continues
  · have permits := (recorded.tracked _ _ _ rfl).resolve_left (by simp)
    have read := recorded.front.framesRead alive
    have gives : Gives receiver start [] (before ++ earlier) := by
      apply permits metas final ?_ late
      rw [incarnation_append before alive, begins, List.nil_append, read, next]
      exact shown
    obtain ⟨others, shownToo, outputs⟩ := recorded.front.given begins alive gives
    rw [next] at shownToo
    cases shown.symm.trans shownToo
    rw [outputs, List.append_nil, quiet]
    exact List.prefix_append _ _
  · obtain ⟨event, more, rfl⟩ := List.exists_cons_of_ne_nil continues
    have split : before ++ earlier ++ .commit last :: event :: more =
        before ++ (earlier ++ [.commit last]) ++ event :: more := by
      simp only [List.append_assoc, List.singleton_append]
    rw [split] at recorded
    have aliveHere : Event.crash ∉ earlier ++ [.commit last] := by
      simp [alive]
    have stands : position (before ++ (earlier ++ [.commit last])) = ⟨last, last + 1⟩ := by
      rw [← List.append_assoc, position_snoc, ← next]
      rfl
    have given : ∀ {pending}, Gives receiver start pending (before ++ (earlier ++ [.commit last])) →
        receiver.outputs start (metas ++ [final]) = messages earlier ++ pending := by
      intro pending gives
      obtain ⟨others, shownToo, outputs⟩ := recorded.front.given begins aliveHere gives
      rw [stands] at shownToo
      cases shown.symm.trans shownToo
      rw [outputs, quiet]
      exact congrArg (· ++ pending) (List.append_nil _)
    have permits := (recorded.tracked _ _ _ rfl).resolve_left
      (fun crash => aliveLater (crash ▸ List.mem_cons_self))
    have ordered : event.Ordered (position (before ++ (earlier ++ [.commit last]))) :=
      recorded.ordered _ _ _ rfl
    rw [stands] at ordered
    have nothing : Gives receiver start [] (before ++ (earlier ++ [.commit last])) →
        receiver.outputs start (metas ++ [final]) <+:
          messages (earlier ++ .commit last :: event :: more) := by
      intro gives
      rw [given gives, List.append_nil, quiet]
      exact List.prefix_append _ _
    cases event with
    | crash => exact absurd List.mem_cons_self aliveLater
    | read sequence value => exact nothing permits
    | reread sequence value =>
        have within : last < sequence ∧ sequence < last + 1 := ordered
        omega
    | commit sequence =>
        have within : last < sequence ∧ sequence + 1 = last + 1 := ordered
        omega
    | handOver output =>
        cases output with
        | returned => exact nothing permits
        | processed count => exact nothing permits
        | message message =>
            rw [given permits, quiet]
            exact List.prefix_append_right_inj _ |>.mpr ⟨messages more, rfl⟩

/-! ### The messages that lie in an incarnation as a whole -/

variable {chunkSize : Nat} {rests : Stage → Prop} {runs : List (Run chunkSize)} {count : Nat}

theorem frameMetas_drop {frames : List F} {metas : List FrameMeta}
    (shown : frameMetas frames = some metas) (skipped : Nat) :
    frameMetas (frames.drop skipped) = some (metas.drop skipped) := by
  induction skipped generalizing frames metas with
  | zero => exact shown
  | succ skipped ih =>
      cases frames with
      | nil =>
          cases shown
          rfl
      | cons frame rest =>
          simp only [frameMetas, List.mapM_cons, Option.pure_def, Option.bind_eq_bind,
            Option.bind_eq_some_iff, Option.some.injEq] at shown
          obtain ⟨first, _shownFirst, others, shownOthers, rfl⟩ := shown
          exact ih shownOthers

theorem window_metas (shown : frameMetas (written.take count) = some (stream runs))
    {skipped beyond : Nat} {metas : List FrameMeta}
    (read : frameMetas ((written.take beyond).drop skipped) = some metas) :
    metas.take (min beyond count - skipped) =
      ((stream runs).drop skipped).take (min beyond count - skipped) := by
  have here := frameMetas_take read (min beyond count - skipped)
  have there := frameMetas_take (frameMetas_drop shown skipped) (min beyond count - skipped)
  rw [List.drop_take, List.take_take] at here there
  rw [show min (min beyond count - skipped) (beyond - skipped) = min beyond count - skipped by
    omega] at here
  rw [show min (min beyond count - skipped) (count - skipped) = min beyond count - skipped by
    omega] at there
  exact Option.some.inj (here.symm.trans there)

theorem window_outputs (resumes : Resumes receiver chunkSize rests) (resting : rests start)
    (complete : ∀ run ∈ runs, run.Complete)
    (shown : frameMetas (written.take count) = some (stream runs)) {skipped beyond : Nat}
    {metas : List FrameMeta}
    (read : frameMetas ((written.take beyond).drop skipped) = some metas) {chosen : List Span}
    (among : chosen.Sublist (placed 0 runs))
    (inside : ∀ span ∈ chosen, skipped ≤ span.first ∧ span.beyond ≤ beyond) :
    (chosen.map Span.message).Sublist (receiver.outputs start metas) := by
  have length := frameMetas_length shown
  rw [List.length_take] at length
  have window : ∀ span ∈ chosen, 0 + skipped ≤ span.first ∧
      span.beyond ≤ 0 + skipped + (min beyond count - skipped) := by
    intro span member
    have bounds := placed_bounds (among.subset member)
    have placed := inside span member
    omega
  have handed := resumes.outputs resting complete among window
  rw [← window_metas shown read] at handed
  rw [← List.take_append_drop (min beyond count - skipped) metas, Transducer.outputs_append]
  exact handed.trans (List.sublist_append_left _ _)

def Timely (receiver : Transducer Stage FrameMeta Message) (early : Stage → FrameMeta → Prop)
    (chunkSize : Nat) (rests : Stage → Prop) : Prop :=
  ∀ (stage : Stage) (run : Run chunkSize) (init : List FrameMeta) (last : FrameMeta),
    rests stage → run.Complete → run.frames = init ++ [last] →
    ¬ early (receiver.after stage init) last

theorem batch_timely : Timely batchReceiver (fun _ _ => False) chunkSize (fun _ => True) :=
  fun _ _ _ _ _ _ _ impossible => impossible

theorem leased_timely : Timely leasedReceiver lentLate chunkSize (·.2 = none) := by
  intro stage run init last rests complete frames ⟨waiting, several, _last⟩
  obtain ⟨buffer, held⟩ := stage
  cases rests
  obtain ⟨more, emitted⟩ : ∃ more, run.emitted = more + 1 :=
    ⟨run.emitted - 1, by have some := complete.emitted_pos; omega⟩
  rw [Run.frames, Run.framesAfter, emitted, Nat.sub_zero, shownFrom_snoc] at frames
  obtain ⟨rfl, final⟩ := List.append_inj' frames rfl
  cases final
  have whole : more + 1 = frameCount chunkSize run.message.payload := emitted.symm.trans complete
  rcases Nat.eq_zero_or_pos more with rfl | positive
  · have single : isSingleFrame (frameAt chunkSize run.message run.messageId (0 + 0)).shown.flags =
        true := by
      rw [shown_flags, ← whole]
      rfl
    rw [single] at several
    cases several
  · -- All frames but the last are those of a run that is cut short.
    let shorter : Run chunkSize :=
      { messageId := run.messageId, message := run.message, emitted := more
        within := by omega }
    have cut : ¬ shorter.Complete := by
      intro same
      have equal : more = frameCount chunkSize run.message.payload := same
      omega
    have same := leased_after buffer (shownFrom chunkSize run.message run.messageId 0 more)
    have waits : ownedReceiver.after none
        (shownFrom chunkSize run.message run.messageId 0 more) = some _ :=
      (owned_cut cut positive).1
    rw [waits] at same
    rcases reached : leasedReceiver.after (buffer, none)
        (shownFrom chunkSize run.message run.messageId 0 more) with ⟨later, none | messageMeta⟩
    · rw [reached] at same
      exact same.elim
    · rw [reached] at waiting
      cases waiting

theorem Recorded.hands_over (recorded : Recorded receiver start early written (before ++ life))
    (begins : incarnation before = []) (idle : (position before).Idle)
    (uninterrupted : Event.crash ∉ life) (resumes : Resumes receiver chunkSize rests)
    (resting : rests start) (complete : ∀ run ∈ runs, run.Complete)
    (shown : frameMetas (written.take count) = some (stream runs)) {chosen : List Span}
    (among : chosen.Sublist (placed 0 runs))
    (inside : ∀ span ∈ chosen, (position before).committed + 1 ≤ span.first ∧
      (span.beyond : Int) ≤ (position (before ++ life)).committed + 1)
    (timely : Timely receiver early chunkSize rests ∨
      ∀ span ∈ chosen, Survived (before ++ life) span) :
    (chosen.map Span.message).Sublist (messages life) := by
  rcases List.eq_nil_or_concat chosen with rfl | ⟨others, latest, rfl⟩
  · exact List.nil_sublist _
  have low := (recorded.front.ordered.start_le).1
  have next : (position before).next = (position before).committed + 1 := idle
  have nonempty := placed_nonempty complete (among.subset (by simp : latest ∈ others.concat latest))
  have reaches := inside latest (by simp)
  obtain ⟨earlier, later, split⟩ := commit_split uninterrupted
    (show (position before).committed < (position (before ++ life)).committed by omega)
  generalize (position (before ++ life)).committed = last at *
  subst split
  rw [← List.append_assoc] at recorded
  have fits := recorded.ordered _ _ _ rfl
  have here : (position (before ++ earlier)).next = last + 1 := fits.2.symm
  have alive : Event.crash ∉ earlier := fun member => uninterrupted (List.mem_append_left _ member)
  obtain ⟨metas, read, given⟩ := recorded.front.read_gives begins alive (by omega)
  rw [here, Int.add_sub_cancel] at read
  rw [List.append_assoc] at recorded
  by_cases final : ∃ span ∈ others.concat latest, (span.beyond : Int) = last + 1
  · obtain ⟨span, member, ends⟩ := final
    have bounds := placed_bounds (among.subset member)
    have first := (inside span member).1
    have length := frameMetas_length shown
    rw [List.length_take] at length
    have shownHere :
        frameMetas ((written.take (last + 1).toNat).drop (position before).next.toNat) =
          some (((stream runs).drop (position before).next.toNat).take
            (span.beyond - (position before).next.toNat)) := by
      have whole := frameMetas_drop (frameMetas_take shown span.beyond)
        (position before).next.toNat
      rw [List.take_take, Nat.min_eq_left (by omega)] at whole
      rw [show (last + 1).toNat = span.beyond by omega, ← List.drop_take]
      exact whole
    obtain ⟨run, whole, middle, frames, rested⟩ := resumes.reaches resting complete
      (among.subset member) (show 0 + (position before).next.toNat ≤ span.first by omega)
      (show span.beyond = 0 + (position before).next.toNat +
        (span.beyond - (position before).next.toNat) by omega)
    obtain ⟨init, final, ending⟩ : ∃ init final, run.frames = init ++ [final] := by
      rcases List.eq_nil_or_concat run.frames with none | ⟨init, final, ending⟩
      · have empty := congrArg List.length none
        rw [Run.frames_length, List.length_nil] at empty
        have some := whole.emitted_pos
        omega
      · exact ⟨init, final, by rw [ending, List.concat_eq_append]⟩
    rw [frames, ending, ← List.append_assoc] at shownHere
    have continues : ¬ early (receiver.after start (middle ++ init)) final ∨ later ≠ [] := by
      rcases timely with timely | survived
      · rw [Transducer.after_append]
        exact .inl (timely _ _ _ _ rested whole ending)
      · right
        intro none
        obtain ⟨event, more, same, _alive⟩ := survived span member (before ++ earlier) later (by
          rw [show (span.beyond : Int) - 1 = last by omega, List.append_assoc])
        rw [none] at same
        cases same
    have handed := recorded.commit_gives begins uninterrupted shownHere continues
    have among := window_outputs resumes resting complete shown shownHere among (by
      intro other member
      have bounds := inside other member
      omega)
    exact among.trans handed.sublist
  · have handed := window_outputs resumes resting complete shown read among (by
      intro span member
      have bounds := inside span member
      have different : (span.beyond : Int) ≠ last + 1 := fun same => final ⟨span, member, same⟩
      omega)
    rw [messages_append]
    exact (handed.trans given.sublist).trans (List.sublist_append_left _ _)

/-! ### Every incarnation -/

variable {log : Log F publishPaths receivePaths} {span : Span}

omit [FramedTransportFrame F] in
theorem Uncut.front {earlier rest : Log F publishPaths receivePaths}
    (uncut : Uncut (earlier ++ .crash :: rest) span)
    (consumed : (span.beyond : Int) ≤ (position earlier).committed + 1) :
    Uncut earlier span where
  consumed := consumed
  uncut := by
    intro before more split
    apply uncut.uncut before (more ++ .crash :: rest)
    rw [split, List.append_assoc, List.cons_append]

omit [FramedTransportFrame F] in
theorem Survived.front {earlier rest : Log F publishPaths receivePaths}
    (survived : Survived (earlier ++ .crash :: rest) span) : Survived earlier span := by
  intro before more split
  obtain ⟨event, others, same, alive⟩ := survived before (more ++ .crash :: rest) (by
    rw [split, List.append_assoc, List.cons_append])
  cases more with
  | nil =>
      cases same
      exact absurd rfl alive
  | cons first more =>
      cases same
      exact ⟨_, more, rfl, alive⟩

/-- Every selection of messages that are consumed and not cut is handed over, in order. -/
theorem Recorded.spares (recorded : Recorded receiver start early written log)
    (resumes : Resumes receiver chunkSize rests) (resting : rests start)
    (complete : ∀ run ∈ runs, run.Complete)
    (shown : frameMetas (written.take count) = some (stream runs)) {chosen : List Span}
    (among : chosen.Sublist (placed 0 runs)) (uncut : ∀ span ∈ chosen, Uncut log span)
    (timely : Timely receiver early chunkSize rests ∨ ∀ span ∈ chosen, Survived log span) :
    (chosen.map Span.message).Sublist (messages log) := by
  -- The induction is over the incarnations: what an earlier one has committed stays so.
  induction size : log.length using Nat.strong_induction_on generalizing log chosen with
  | h size ih =>
      obtain ⟨alive, before, split, begins⟩ := incarnation_split log
      generalize incarnation log = life at *
      subst split
      rcases begins with rfl | ⟨earlier, rfl⟩
      · refine recorded.hands_over rfl rfl alive resumes resting complete shown among ?_ timely
        intro span member
        exact ⟨Int.natCast_nonneg _, (uncut span member).consumed⟩
      · obtain ⟨done, left, divided, past, behind⟩ :=
          placed_split 0 ((position earlier).committed + 1).toNat runs
        have same : earlier ++ [.crash] ++ life = earlier ++ .crash :: life := by
          rw [List.append_assoc, List.singleton_append]
        have low := (Recorded.front (same ▸ recorded)).ordered.start_le.1
        rw [divided] at among
        obtain ⟨before, since, rfl, amongDone, amongLeft⟩ := List.sublist_append_iff.mp among
        rw [List.map_append, messages_append, messages_append]
        refine List.Sublist.append ?_ ?_
        · have placedDone : before.Sublist (placed 0 runs) := by
            rw [divided]
            exact amongDone.trans (List.sublist_append_left _ _)
          have kept := ih earlier.length (by
            rw [← size, List.length_append, List.length_append, List.length_singleton]
            omega) (Recorded.front (same ▸ recorded)) placedDone
            (fun span member => by
              have here := uncut span (List.mem_append_left _ member)
              rw [same] at here
              have bound := past span (amongDone.subset member)
              exact here.front (by omega))
            (timely.imp_right fun survived span member => by
              have here := survived span (List.mem_append_left _ member)
              rw [same] at here
              exact here.front) rfl
          exact kept.trans (List.sublist_append_left _ _)
        · have placedLeft : since.Sublist (placed 0 runs) := by
            rw [divided]
            exact amongLeft.trans (List.sublist_append_right _ _)
          have stands : position (earlier ++ [(.crash : ConsumerEvent
              (framed F publishPaths receivePaths))]) =
              ⟨(position earlier).committed, (position earlier).committed + 1⟩ :=
            position_snoc _ _
          refine recorded.hands_over (incarnation_crash earlier) ?_ alive resumes resting complete
            shown placedLeft ?_ (timely.imp_right fun survived span member =>
              survived span (List.mem_append_right _ member))
          · rw [stands]
            rfl
          · intro span member
            have here := uncut span (List.mem_append_right _ member)
            have bound := behind span (amongLeft.subset member)
            refine ⟨?_, here.consumed⟩
            rw [stands]
            rcases here.uncut earlier life same with inside | past
            · exact inside
            · omega

/-! ### Every run -/

theorem Matches.whole {chunkSize start : Nat} {runs : List (Run chunkSize)}
    {replies : List (Nat × Reply)} (matched : Matches start runs replies)
    (succeeded : ∀ entry ∈ replies, entry.2.succeeded = true) : ∀ run ∈ runs, run.Complete := by
  induction matched with
  | nil start => exact fun _ impossible => absurd impossible List.not_mem_nil
  | @cons start run runs entry rest _message complete _placed _later ih =>
      intro other member
      rcases List.mem_cons.mp member with rfl | behind
      · exact complete.mpr (succeeded entry List.mem_cons_self)
      · exact ih (fun later member => succeeded later (List.mem_cons_of_mem _ member)) other behind

section Spared

variable {transport : Transport} {consumerCounters : ConsumerCounters}
variable {passes : DirectoryPasses} {reliable : transport.backend = .mmap → passes = .reliable}
variable {consumerIds : List ConsumerId} {chosen : List Span}

theorem tracked_spares
    {state : (framedApplication transport F publishPaths receivePaths consumerCounters).State}
    (upheld : (trackingPolicy receiver start (leavingKnown transport F publishPaths receivePaths
      consumerCounters passes reliable consumerIds) early).contract.Upheld state)
    (resumes : Resumes receiver (frameBytes F) rests) (resting : rests start)
    (carries : Carries F) {consumerId : ConsumerId} (member : consumerId ∈ consumerIds)
    (succeeded : ∀ entry ∈ state.world.replies, entry.2.succeeded = true)
    (among : chosen.Sublist (spans 0 state.world.replies))
    (uncut : ∀ span ∈ chosen, Uncut (state.world.events consumerId) span)
    (timely : Timely receiver early (frameBytes F) rests ∨
      ∀ span ∈ chosen, Survived (state.world.events consumerId) span) :
    (chosen.map Span.message).Sublist (messages (state.world.events consumerId)) := by
  have holds := upheld.invariant
  obtain ⟨runs, shown, _length, matched⟩ := runs_of_calls carries holds.answered
  have recorded : Recorded receiver start early state.world.written
      (state.world.events consumerId) :=
    ⟨holds.ordered consumerId, holds.faithful consumerId member, holds.permitted consumerId⟩
  rw [← matched.placed] at among
  exact recorded.spares resumes resting (matched.whole succeeded) shown among uncut timely

variable {slots : Nat → F} {producer : Ring.Producer} {attached joining : List ConsumerId}
variable {path : ReceivePath} {moves : List (Move Party (Oracle (framed F publishPaths [path])))}
variable {state : (framedApplication transport F publishPaths [path] consumerCounters).State}

/-- A consumer that is started again and again hands over every message that it has consumed
and that no crash cuts, in order. Where it puts a message together itself, it must also not
end right where it has committed the last frame. -/
theorem restarts_spare (reliable : transport.backend = .mmap → passes = .reliable)
    (carries : Carries F) (fresh : producer.Fresh transport)
    (known : producer.consumerBarrier.consumerCursors ⊆ attached)
    (reached : Reaches transport passes consumerCounters slots producer attached joining moves
      state) {consumerId : ConsumerId}
    (member : consumerId ∈ producer.consumerBarrier.consumerCursors)
    (succeeded : ∀ entry ∈ state.world.replies, entry.2.succeeded = true)
    (among : chosen.Sublist (spans 0 state.world.replies))
    (uncut : ∀ span ∈ chosen, Uncut (state.world.events consumerId) span)
    (survived : path = .recvMessageBlockingOwned →
      ∀ span ∈ chosen, Survived (state.world.events consumerId) span) :
    (chosen.map Span.message).Sublist (messages (state.world.events consumerId)) := by
  have upheld : ∀ {Stage : Type} {receiver : Transducer Stage FrameMeta Message} {start : Stage}
      {early : Stage → FrameMeta → Prop} {kept : Log F publishPaths [path] → Receiving → Prop},
      (trackingPolicy receiver start (leavingKnown transport F publishPaths [path]
        consumerCounters passes reliable producer.consumerBarrier.consumerCursors)
        early).ServesConsumer kept →
      (trackingPolicy receiver start (leavingKnown transport F publishPaths [path]
        consumerCounters passes reliable producer.consumerBarrier.consumerCursors)
        early).contract.Upheld state := by
    intro Stage receiver start early kept serves
    exact reaches_upheld tracking_servesProducer serves fresh (fun _ member => ⟨member, member⟩)
      known (fun _ => trivial) (fun _ absent member => absent (known member))
      (fun _ _ _ => trivial) (fun _ _ _ _ => trivial) reached
  cases path with
  | recvMessageBlockingOwned =>
      exact tracked_spares (upheld (ownedTracking_serves _)) (owned_resumes frameBytes_pos) rfl
        carries member succeeded among uncut (.inr (survived rfl))
  | recvMessageBlockingLeased =>
      exact tracked_spares (upheld (leasedTracking_serves _)) (leased_resumes frameBytes_pos) rfl
        carries member succeeded among uncut (.inl leased_timely)
  | processAvailableMessages =>
      exact tracked_spares (upheld (batchTracking_serves _)) (batch_resumes frameBytes_pos)
        trivial carries member succeeded among uncut (.inl batch_timely)

end Spared

section Example

abbrev restarting : Application oneSlot :=
  framedApplication oneSlot (FixedFrame 2) [.publish] [.recvMessageBlockingOwned] noCounters

abbrev restartingStart : restarting.State :=
  restarting.start emptySlots (knowing oneSlot ["reader"]) ["reader"] []

def receives : Oracle restarting.interface :=
  .consumerRequest ⟨.recvMessageBlockingOwned, List.mem_singleton.mpr rfl⟩

def untilFirst : List (Move Party (Oracle restarting.interface)) :=
  [.silent, .producerRequest (⟨.publish, List.mem_singleton.mpr rfl⟩, threeBytes),
    .takenMessageIds 0, .silent, .silent, .silent].map (Move.step .producer) ++
  [.silent, receives, .silent, .silent, .silent, .silent].map
    (Move.step (.consumer "reader")) ++
  [.silent, .order ["reader"], .silent, .silent, .silent, .silent].map (Move.step .producer)

/-- The reader is started again, and consumes the other frame. -/
def crashesBetween : List (Move Party (Oracle restarting.interface)) :=
  untilFirst ++ [.crash (.consumer "reader")] ++
  [.silent, .silent, .silent, .silent, receives, .silent, .silent, .silent, .silent,
    .silent].map (Move.step (.consumer "reader"))

def crashesBehind : List (Move Party (Oracle restarting.interface)) :=
  untilFirst ++
  [.silent, .silent, .silent, .silent, .silent, .silent].map (Move.step (.consumer "reader")) ++
  [.crash (.consumer "reader")]

/-- All is consumed, and the reader has got nothing but the end of the message. -/
theorem restart_truncates : ∃ state,
    Reaches oneSlot .mayFail noCounters emptySlots (knowing oneSlot ["reader"]) ["reader"] []
      crashesBetween state ∧
    spans 0 state.world.replies = [⟨0, 2, threeBytes⟩] ∧
    (∀ entry ∈ state.world.replies, entry.2.succeeded = true) ∧
    state.world.producerSequence = 1 ∧ state.world.consumerSequence "reader" = 1 ∧
    messages (state.world.events "reader") = [{ kind := 1, payload := [12] }] := by
  have found : ((restarting.machine .mayFail).run restartingStart crashesBetween).any
      (fun state => decide (spans 0 state.world.replies = [⟨0, 2, threeBytes⟩]) &&
        decide (∀ entry ∈ state.world.replies, entry.2.succeeded = true) &&
        decide (state.world.producerSequence = 1 ∧ state.world.consumerSequence "reader" = 1) &&
        decide (messages (state.world.events "reader") = [{ kind := 1, payload := [12] }])) =
      true := by
    decide +kernel
  obtain ⟨state, reached, checked⟩ := (Option.any_eq_true _ _).mp found
  simp only [Bool.and_eq_true, decide_eq_true_eq] at checked
  obtain ⟨⟨⟨placed, succeeded⟩, produced, consumed⟩, handed⟩ := checked
  exact ⟨state, reached, placed, succeeded, produced, consumed, handed⟩

omit [FramedTransportFrame F] in
theorem Uncut.ended {life : Log F publishPaths receivePaths} {span : Span}
    (uninterrupted : Event.crash ∉ life)
    (consumed : (span.beyond : Int) ≤ (position life).committed + 1) :
    Uncut (life ++ [.crash]) span where
  consumed := by
    rw [position_snoc]
    exact consumed
  uncut := by
    intro before rest split
    right
    rcases snoc_split.mp split with ⟨rfl, rfl, _crash⟩ | ⟨more, rfl, earlier⟩
    · exact consumed
    · rw [earlier] at uninterrupted
      exact absurd (List.mem_append_right _ List.mem_cons_self) uninterrupted

def wholeLife (earlier later : FixedFrame 2) (output : Output) :
    Log (FixedFrame 2) [.publish] [.recvMessageBlockingOwned] :=
  [.read 0 earlier, .commit 0, .read 1 later, .commit 1, .handOver output]

def handsOverWhole (log : Log (FixedFrame 2) [.publish] [.recvMessageBlockingOwned]) : Bool :=
  match log with
  | [.read 0 _, .commit 0, .read 1 _, .commit 1, .handOver _, .crash] => true
  | _ => false

theorem handsOverWhole_log {log : Log (FixedFrame 2) [.publish] [.recvMessageBlockingOwned]}
    (whole : handsOverWhole log = true) :
    ∃ earlier later output, log = wholeLife earlier later output ++ [.crash] := by
  unfold handsOverWhole at whole
  split at whole
  · exact ⟨_, _, _, rfl⟩
  · cases whole

theorem restarts_spare_two_frames : ∃ state,
    Reaches oneSlot .mayFail noCounters emptySlots (knowing oneSlot ["reader"]) ["reader"] []
      crashesBehind state ∧
    ([⟨0, 2, threeBytes⟩].map Span.message).Sublist (messages (state.world.events "reader")) := by
  have found : ((restarting.machine .mayFail).run restartingStart crashesBehind).any
      (fun state => decide (spans 0 state.world.replies = [⟨0, 2, threeBytes⟩]) &&
        decide (∀ entry ∈ state.world.replies, entry.2.succeeded = true) &&
        handsOverWhole (state.world.events "reader")) = true := by
    decide +kernel
  obtain ⟨state, reached, checked⟩ := (Option.any_eq_true _ _).mp found
  simp only [Bool.and_eq_true, decide_eq_true_eq] at checked
  obtain ⟨⟨placed, succeeded⟩, whole⟩ := checked
  obtain ⟨earlier, later, output, shape⟩ := handsOverWhole_log whole
  have fresh : (knowing oneSlot ["reader"]).Fresh oneSlot := ⟨rfl, rfl⟩
  have reader : "reader" ∈ (knowing oneSlot ["reader"]).consumerBarrier.consumerCursors :=
    List.mem_cons_self
  have uncut : ∀ span ∈ [(⟨0, 2, threeBytes⟩ : Span)],
      Uncut (state.world.events "reader") span := by
    intro span member
    cases List.mem_singleton.mp member
    rw [shape]
    exact Uncut.ended (by simp [wholeLife]) (Int.le_refl 2)
  have survived : ∀ span ∈ [(⟨0, 2, threeBytes⟩ : Span)],
      Survived (state.world.events "reader") span := by
    intro span member before rest split
    cases List.mem_singleton.mp member
    rw [shape] at split
    rcases before with _ | ⟨_, _ | ⟨_, _ | ⟨_, _ | ⟨_, _ | ⟨_, _ | ⟨_, more⟩⟩⟩⟩⟩⟩ <;>
      simp [wholeLife] at split
    exact ⟨_, _, split.2.2.2.symm, by simp⟩
  refine ⟨state, reached, restarts_spare ?_ (fixedFrame_carries (by decide)) fresh
    (List.Subset.refl ["reader"]) reached reader succeeded (placed ▸ List.Sublist.refl _) uncut
    fun _ => survived⟩
  intro mapped
  cases mapped

end Example

end Framed
