/-
When the alert hook is called for a required consumer.

The policy is run against any answers that its looks may get, and the looks at a consumer
are noted in one history with the alerts that the hook gets for it. The flag that the
policy keeps says whether the window of the history has had its alert.
-/

import Myelon.Ring.Liveness
import Myelon.Watch.Alerting

namespace Ring

open Watch

/-! ### The calls of a policy, with what is noted of them -/

/-- What the next looks of a policy show, and the looks and alerts of each consumer. -/
structure Chronicle where
  answers : List (Option Int)
  history : ConsumerId → List (Noted RequiredConsumerAlert)

namespace Chronicle

def initial : Chronicle := { answers := [], history := fun _ => [] }

def note (chronicle : Chronicle) (consumerId : ConsumerId)
    (noted : Noted RequiredConsumerAlert) : Chronicle :=
  { chronicle with
    history := Function.update chronicle.history consumerId
      (chronicle.history consumerId ++ [noted]) }

/-- A look at the cursor of a consumer. Without an answer it shows nothing. -/
def observe (sighting : Option Int → Sighting) (consumerId : ConsumerId) :
    StateM Chronicle (Option Int) := fun chronicle =>
  (chronicle.answers.headD none,
    { chronicle with answers := chronicle.answers.tail }.note consumerId
      (.saw (sighting (chronicle.answers.headD none))))

def alertHook (alert : RequiredConsumerAlert) : StateM Chronicle Unit := fun chronicle =>
  ((), chronicle.note alert.consumerId (.raised alert))

end Chronicle

namespace LivenessCall

def seeds : LivenessCall → Bool
  | .seedProgress _ _ => true
  | _ => false

def evaluates : LivenessCall → Bool
  | .evaluateBlocked _ _ _ => true
  | _ => false

def chronicle : LivenessCall → RequiredConsumerLivenessState → Chronicle →
    (Option RequiredConsumerError × RequiredConsumerLivenessState) × Chronicle
  | .seedProgress now answers, state, chronicle =>
      let seeded := RequiredConsumerLivenessState.seedProgress (Chronicle.observe (.seeded now))
        now state.config.requiredConsumerIds state { chronicle with answers }
      ((none, seeded.1), seeded.2)
  | .markStartupCompleted now, state, chronicle =>
      ((none, state.markStartupCompleted now), chronicle)
  | .evaluateBlocked now producerSequence answers, state, chronicle =>
      state.evaluateBlocked (Chronicle.observe (.observed now producerSequence))
        Chronicle.alertHook now producerSequence { chronicle with answers }

def chronicles : List LivenessCall → RequiredConsumerLivenessState → Chronicle →
    RequiredConsumerLivenessState × Chronicle
  | [], state, chronicle => (state, chronicle)
  | call :: rest, state, chronicle =>
      chronicles rest (call.chronicle state chronicle).1.2 (call.chronicle state chronicle).2

end LivenessCall

/-! ### What the policy keeps of the alerts -/

namespace RequiredConsumerLivenessState

variable {config : RequiredConsumerLivenessConfig} {start now : Nat}

/-- The flag of a consumer says whether something in the window is overdue. -/
structure Minds (config : RequiredConsumerLivenessConfig) (start now : Nat)
    (progress : RequiredConsumerProgress) (history : List (Noted RequiredConsumerAlert)) :
    Prop where
  lastObservedSequence :
    progress.lastObservedSequence = (account (-1) start history).standing.highest
  lastProgressAt : progress.lastProgressAt = (account (-1) start history).standing.since
  past : progress.lastProgressAt ≤ now
  alerting : Alerting (-1) start config.progressTimeout history
  alertEmitted : progress.alertEmitted = true ↔ ∃ earlier,
    .saw earlier ∈ (account (-1) start history).window ∧
      Overdue config.progressTimeout (account (-1) start history).standing earlier

theorem minds_new (config : RequiredConsumerLivenessConfig) (start : Nat)
    (consumerId : ConsumerId) :
    Minds config start start ((new config start).consumers consumerId) [] where
  lastObservedSequence := rfl
  lastProgressAt := rfl
  past := Nat.le_refl _
  alerting := .nothing
  alertEmitted := by
    constructor
    · exact nofun
    · rintro ⟨earlier, member, _⟩
      cases member

variable {progress : RequiredConsumerProgress} {history : List (Noted RequiredConsumerAlert)}

theorem Minds.shows (minds : Minds config start now progress history) {sighting : Sighting}
    (shows : sighting.Shows (account (-1) start history).standing.highest)
    (timed : sighting.time = now) {sequence : Int}
    (reached : sequence = sighting.highest (-1) (account (-1) start history).standing.highest) :
    Minds config start now
      { lastObservedSequence := sequence
        lastProgressAt := now
        stallStartedAt := none
        alertEmitted := false }
      (history ++ [.saw sighting]) := by
  constructor
  · rw [account_saw]
    exact reached
  · rw [account_saw]
    simp only [Sighting.after, if_pos shows, timed]
  · exact Nat.le_refl _
  · exact minds.alerting.silent (fun due => due.1.1 shows)
  · rw [account_shows shows]
    constructor
    · intro impossible
      cases impossible
    · rintro ⟨earlier, member, _⟩
      cases member

variable {producerSequence : Int} {observed : Option Int}

theorem Minds.still (minds : Minds config start now progress history)
    (still : hasProgressed observed producerSequence progress = none)
    (quiet : now - progress.lastProgressAt < config.progressTimeout ∨
      progress.alertEmitted = true) (stallStartedAt : Option Nat) :
    Minds config start now { progress with stallStartedAt }
      (history ++ [.saw (.observed now producerSequence observed)]) := by
  have without := hasProgressed_none now still
  rw [minds.lastObservedSequence] at without
  have past := minds.past
  have since := minds.lastProgressAt
  constructor
  · rw [account_still without]
    exact minds.lastObservedSequence
  · rw [account_still without]
    exact minds.lastProgressAt
  · exact minds.past
  · apply minds.alerting.silent
    intro due
    rcases quiet with early | emitted
    · have late : (account (-1) start history).standing.since + config.progressTimeout ≤ now :=
        due.1.2
      omega
    · obtain ⟨earlier, member, overdue⟩ := minds.alertEmitted.mp emitted
      exact due.2 earlier member overdue
  · rw [account_still without]
    constructor
    · intro emitted
      obtain ⟨earlier, member, overdue⟩ := minds.alertEmitted.mp emitted
      exact ⟨earlier, List.mem_append_left _ member, overdue⟩
    · rintro ⟨earlier, member, overdue⟩
      rcases List.mem_append.mp member with before | last
      · exact minds.alertEmitted.mpr ⟨earlier, before, overdue⟩
      · rcases quiet with early | emitted
        · cases List.mem_singleton.mp last
          have late : (account (-1) start history).standing.since + config.progressTimeout ≤
              now := overdue.2
          omega
        · exact emitted

/-- The first look after the timeout is the one that the hook is called at. -/
theorem Minds.alerts (minds : Minds config start now progress history)
    (still : hasProgressed observed producerSequence progress = none)
    (late : config.progressTimeout ≤ now - progress.lastProgressAt)
    (fresh : progress.alertEmitted = false) (stallStartedAt : Option Nat)
    (alert : RequiredConsumerAlert) :
    Minds config start now { progress with stallStartedAt, alertEmitted := true }
      (history ++ [.saw (.observed now producerSequence observed)] ++ [.raised alert]) := by
  have without := hasProgressed_none now still
  rw [minds.lastObservedSequence] at without
  have past := minds.past
  have since := minds.lastProgressAt
  have overdue : Overdue config.progressTimeout (account (-1) start history).standing
      (.observed now producerSequence observed) := by
    refine ⟨without, ?_⟩
    change (account (-1) start history).standing.since + config.progressTimeout ≤ now
    omega
  constructor
  · rw [account_raised, account_still without]
    exact minds.lastObservedSequence
  · rw [account_raised, account_still without]
    exact minds.lastProgressAt
  · exact minds.past
  · apply minds.alerting.alarms
    refine ⟨overdue, fun earlier member before => ?_⟩
    rw [minds.alertEmitted.mpr ⟨earlier, member, before⟩] at fresh
    cases fresh
  · rw [account_raised, account_still without]
    refine ⟨fun _ => ?_, fun _ => rfl⟩
    refine ⟨_, ?_, overdue⟩
    exact List.mem_append_left _ (List.mem_append_right _ List.mem_cons_self)

/-- Once the flag is set, the window has had its alert. -/
theorem Minds.raised (minds : Minds config start now progress history)
    (emitted : progress.alertEmitted = true) : (account (-1) start history).raised = 1 := by
  obtain ⟨earlier, member, overdue⟩ := minds.alertEmitted.mp emitted
  rcases minds.alerting.settled with ⟨_none, early⟩ | ⟨one, _⟩
  · exact absurd overdue (early earlier member)
  · exact one

theorem Minds.later (minds : Minds config start now progress history) {later : Nat}
    (passed : now ≤ later) : Minds config start later progress history :=
  { minds with past := Nat.le_trans minds.past passed }

/-! ### All of the consumers -/

structure Minding (config : RequiredConsumerLivenessConfig) (start now : Nat)
    (state : RequiredConsumerLivenessState) (chronicle : Chronicle) : Prop where
  configured : state.config = config
  minds : ∀ consumerId,
    Minds config start now (state.consumers consumerId) (chronicle.history consumerId)

variable {state : RequiredConsumerLivenessState} {chronicle : Chronicle}

theorem Minding.later (minding : Minding config start now state chronicle) {later : Nat}
    (passed : now ≤ later) : Minding config start later state chronicle where
  configured := minding.configured
  minds := fun consumerId => (minding.minds consumerId).later passed

theorem Minding.asked (minding : Minding config start now state chronicle)
    (answers : List (Option Int)) : Minding config start now state { chronicle with answers } :=
  ⟨minding.configured, minding.minds⟩

theorem Minding.noted (minding : Minding config start now state chronicle)
    {consumerId : ConsumerId} {later : Chronicle}
    (others : ∀ other, other ≠ consumerId → later.history other = chronicle.history other)
    (minds : Minds config start now progress (later.history consumerId)) :
    Minding config start now (state.withProgress consumerId progress) later where
  configured := minding.configured
  minds := by
    intro other
    by_cases same : other = consumerId
    · subst same
      simp only [withProgress, Function.update_self]
      exact minds
    · simp only [withProgress, Function.update_of_ne same]
      rw [others other same]
      exact minding.minds other

theorem note_self (chronicle : Chronicle) (consumerId : ConsumerId)
    (noted : Noted RequiredConsumerAlert) :
    (chronicle.note consumerId noted).history consumerId =
      chronicle.history consumerId ++ [noted] := by
  simp only [Chronicle.note, Function.update_self]

theorem note_other (chronicle : Chronicle) {consumerId other : ConsumerId}
    (noted : Noted RequiredConsumerAlert) (different : other ≠ consumerId) :
    (chronicle.note consumerId noted).history other = chronicle.history other := by
  simp only [Chronicle.note, Function.update_of_ne different]

/-! ### The loops over the required consumers -/

theorem Minding.saw (minding : Minding config start now state chronicle)
    {consumerId : ConsumerId} {sighting : Sighting}
    (minds : Minds config start now progress
      (chronicle.history consumerId ++ [.saw sighting])) (answers : List (Option Int)) :
    Minding config start now (state.withProgress consumerId progress)
      ({ chronicle with answers }.note consumerId (.saw sighting)) := by
  apply minding.noted
  · intro other different
    exact note_other _ _ different
  · rw [note_self]
    exact minds

theorem seedProgress_minding (consumerIds : List ConsumerId)
    {state : RequiredConsumerLivenessState} {chronicle : Chronicle}
    (minding : Minding config start now state chronicle) :
    Minding config start now
      (seedProgress (Chronicle.observe (.seeded now)) now consumerIds state chronicle).1
      (seedProgress (Chronicle.observe (.seeded now)) now consumerIds state chronicle).2 := by
  induction consumerIds generalizing state chronicle with
  | nil => exact minding
  | cons consumerId rest ih =>
      have shows : (Sighting.seeded now (chronicle.answers.headD none)).Shows
          (account (-1) start (chronicle.history consumerId)).standing.highest := trivial
      exact ih (minding.saw ((minding.minds consumerId).shows shows rfl rfl) _)

/-- A shutdown is announced if the consumer has had its alert since it showed progress. -/
def Announced (start : Nat) (error : Option RequiredConsumerError) (chronicle : Chronicle) :
    Prop :=
  ∀ consumerId lastSequence stalledFor,
    error = some (.gracefulShutdownTriggered consumerId lastSequence stalledFor) →
    (account (-1) start (chronicle.history consumerId)).raised = 1

theorem announced_none {chronicle : Chronicle} : Announced start none chronicle :=
  fun _ _ _ => nofun

theorem emitAlert_chronicle (hooked : config.alertHook = true)
    (progress : RequiredConsumerProgress) (alert : RequiredConsumerAlert)
    (chronicle : Chronicle) :
    (emitAlert Chronicle.alertHook config progress alert chronicle).2 =
      if progress.alertEmitted = true then chronicle
      else chronicle.note alert.consumerId (.raised alert) := by
  unfold emitAlert
  rw [hooked, Bool.and_true]
  cases progress.alertEmitted <;> rfl

theorem Minding.stalls (hooked : config.alertHook = true) {consumerId : ConsumerId}
    (minding : Minding config start now state chronicle)
    (still : hasProgressed observed producerSequence (state.consumers consumerId) = none)
    (late : config.progressTimeout ≤ now - (state.consumers consumerId).lastProgressAt)
    (stallStartedAt : Option Nat) {alert : RequiredConsumerAlert}
    (named : alert.consumerId = consumerId) (answers : List (Option Int)) :
    Minding config start now
      (state.withProgress consumerId
        { state.consumers consumerId with stallStartedAt, alertEmitted := true })
      (emitAlert Chronicle.alertHook config (state.consumers consumerId) alert
        ({ chronicle with answers }.note consumerId
          (.saw (.observed now producerSequence observed)))).2 := by
  rw [emitAlert_chronicle hooked]
  subst named
  have minds := minding.minds alert.consumerId
  by_cases emitted : (state.consumers alert.consumerId).alertEmitted = true
  · rw [if_pos emitted]
    have kept := minds.still still (.inr emitted) stallStartedAt
    rw [emitted] at kept
    exact minding.saw kept answers
  · rw [if_neg emitted]
    apply minding.noted
    · intro other different
      rw [note_other _ _ different]
      exact note_other _ _ different
    · rw [note_self, note_self]
      exact minds.alerts still late (Bool.eq_false_iff.mpr emitted) stallStartedAt alert

theorem evaluateConsumers_minding (hooked : config.alertHook = true)
    (consumerIds : List ConsumerId) {state : RequiredConsumerLivenessState}
    {chronicle : Chronicle} (minding : Minding config start now state chronicle)
    (running : state.terminalError = none) :
    ∀ failure after seen,
      evaluateConsumers (Chronicle.observe (.observed now producerSequence)) Chronicle.alertHook
        now producerSequence consumerIds state chronicle = ((failure, after), seen) →
      Minding config start now after seen ∧ after.terminalError = failure ∧
        Announced start failure seen := by
  induction consumerIds generalizing state chronicle with
  | nil =>
      rintro failure after seen ⟨⟩
      exact ⟨minding, running, announced_none⟩
  | cons consumerId rest ih =>
      intro failure after seen evaluated
      have minds := minding.minds consumerId
      simp only [evaluateConsumers, bind, StateT.bind, Chronicle.observe] at evaluated
      cases progressed : hasProgressed (chronicle.answers.headD none) producerSequence
          (state.consumers consumerId) with
      | some sequence =>
          simp only [progressed] at evaluated
          have shown := hasProgressed_some now progressed
          rw [minds.lastObservedSequence] at shown
          exact ih (minding.saw (minds.shows shown.1 rfl shown.2) _) running failure after seen
            evaluated
      | none =>
          simp only [progressed] at evaluated
          by_cases early : now - (state.consumers consumerId).lastProgressAt <
              state.config.progressTimeout
          · simp only [if_pos early] at evaluated
            rw [minding.configured] at early
            have same := minding.saw (minds.still progressed (.inl early)
              (state.consumers consumerId).stallStartedAt) chronicle.answers.tail
            rw [withProgress_self] at same
            exact ih same running failure after seen evaluated
          · simp only [if_neg early] at evaluated
            rw [minding.configured] at evaluated early
            have stalls := minding.stalls hooked progressed (Nat.le_of_not_lt early)
              (some ((state.consumers consumerId).stallStartedAt.getD now))
              (show ({ consumerId
                       lastSequence := (state.consumers consumerId).lastObservedSequence
                       stalledFor := now - (state.consumers consumerId).lastProgressAt } :
                  RequiredConsumerAlert).consumerId = consumerId from rfl)
              chronicle.answers.tail
            by_cases patient : now - (state.consumers consumerId).stallStartedAt.getD now <
                config.shutdownGracePeriod
            · simp only [withProgress_config, minding.configured, patient, reduceIte]
                at evaluated
              exact ih stalls running failure after seen evaluated
            · simp only [withProgress_config, minding.configured, patient, reduceIte]
                at evaluated
              cases evaluated
              refine ⟨⟨rfl, stalls.minds⟩, rfl, ?_⟩
              rintro stalled lastSequence stalledFor ⟨⟩
              have kept := stalls.minds consumerId
              simp only [withProgress, Function.update_self] at kept
              exact kept.raised rfl

theorem evaluateBlocked_minding (hooked : config.alertHook = true)
    (minding : Minding config start now state chronicle)
    {failure : Option RequiredConsumerError} {after : RequiredConsumerLivenessState}
    {seen : Chronicle}
    (evaluated : state.evaluateBlocked (Chronicle.observe (.observed now producerSequence))
      Chronicle.alertHook now producerSequence chronicle = ((failure, after), seen)) :
    Minding config start now after seen ∧
      (Announced start state.terminalError chronicle →
        Announced start failure seen ∧ Announced start after.terminalError seen) := by
  unfold evaluateBlocked at evaluated
  cases terminal : state.terminalError with
  | some error =>
      simp only [terminal] at evaluated
      cases evaluated
      rw [terminal]
      exact ⟨minding, fun announced => ⟨announced, announced⟩⟩
  | none =>
      simp only [terminal] at evaluated
      by_cases due : state.shouldCheck now = true
      · simp only [due, reduceIte] at evaluated
        have checking : Minding config start now
            { state with
              lastCheckAt := now
              terminalError := none } chronicle :=
          ⟨minding.configured, minding.minds⟩
        obtain ⟨kept, same, told⟩ :=
          evaluateConsumers_minding hooked _ checking rfl failure after seen evaluated
        rw [same]
        exact ⟨kept, fun _ => ⟨told, told⟩⟩
      · simp only [due, Bool.false_eq_true, reduceIte] at evaluated
        cases evaluated
        rw [terminal]
        exact ⟨minding, fun announced => ⟨announced, announced⟩⟩

/-! ### Whole runs of a policy -/

theorem chronicle_minding (hooked : config.alertHook = true) {call : LivenessCall}
    (minding : Minding config start call.now state chronicle) :
    Minding config start call.now (call.chronicle state chronicle).1.2
      (call.chronicle state chronicle).2 := by
  cases call with
  | seedProgress now answers => exact seedProgress_minding _ (minding.asked answers)
  | markStartupCompleted now => exact ⟨minding.configured, minding.minds⟩
  | evaluateBlocked now producerSequence answers =>
      exact (evaluateBlocked_minding hooked (minding.asked answers) rfl).1

theorem seedProgress_terminalError (consumerIds : List ConsumerId)
    (state : RequiredConsumerLivenessState) (chronicle : Chronicle) :
    (seedProgress (Chronicle.observe (.seeded now)) now consumerIds state
      chronicle).1.terminalError = state.terminalError := by
  induction consumerIds generalizing state chronicle with
  | nil => rfl
  | cons consumerId rest ih => exact ih _ _

/-- Whatever is not a seed leaves an error announced. -/
theorem chronicle_announced (hooked : config.alertHook = true) {call : LivenessCall}
    (minding : Minding config start call.now state chronicle)
    (announced : Announced start state.terminalError chronicle)
    (unseeded : state.terminalError = none ∨ call.seeds = false) :
    Announced start (call.chronicle state chronicle).1.2.terminalError
      (call.chronicle state chronicle).2 := by
  cases call with
  | seedProgress now answers =>
      rcases unseeded with running | impossible
      · have kept : ((LivenessCall.seedProgress now answers).chronicle state
            chronicle).1.2.terminalError = none :=
          (seedProgress_terminalError _ _ _).trans running
        rw [kept]
        exact announced_none
      · cases impossible
  | markStartupCompleted now => exact announced
  | evaluateBlocked now producerSequence answers =>
      exact ((evaluateBlocked_minding hooked (minding.asked answers) rfl).2 announced).2

theorem chronicles_minding (hooked : config.alertHook = true) {calls : List LivenessCall}
    {state : RequiredConsumerLivenessState} {chronicle : Chronicle}
    (minding : Minding config start now state chronicle) {later : Nat}
    (ordered : (now :: (calls.map LivenessCall.now ++ [later])).Pairwise (· ≤ ·)) :
    Minding config start later (LivenessCall.chronicles calls state chronicle).1
      (LivenessCall.chronicles calls state chronicle).2 := by
  induction calls generalizing state chronicle now with
  | nil => exact minding.later (List.rel_of_pairwise_cons ordered List.mem_cons_self)
  | cons call rest ih =>
      have passed := List.rel_of_pairwise_cons ordered List.mem_cons_self
      exact ih (chronicle_minding hooked (minding.later passed))
        (List.pairwise_cons.mp ordered).2

/-- The producer seeds its consumers before it evaluates them for the first time. -/
def SeedsFirst (calls : List LivenessCall) : Prop :=
  calls.Pairwise fun earlier later => earlier.evaluates = true → later.seeds = false

theorem not_evaluates_terminalError {call : LivenessCall} (other : call.evaluates = false)
    (state : RequiredConsumerLivenessState) (chronicle : Chronicle) :
    (call.chronicle state chronicle).1.2.terminalError = state.terminalError := by
  cases call with
  | seedProgress now answers => exact seedProgress_terminalError _ _ _
  | markStartupCompleted now => rfl
  | evaluateBlocked now producerSequence answers => cases other

theorem chronicles_announced (hooked : config.alertHook = true) {calls : List LivenessCall}
    {state : RequiredConsumerLivenessState} {chronicle : Chronicle}
    (minding : Minding config start now state chronicle)
    (ordered : (now :: calls.map LivenessCall.now).Pairwise (· ≤ ·))
    (seedsFirst : SeedsFirst calls) (announced : Announced start state.terminalError chronicle)
    (unseeded : state.terminalError = none ∨ ∀ call ∈ calls, call.seeds = false) :
    Announced start (LivenessCall.chronicles calls state chronicle).1.terminalError
      (LivenessCall.chronicles calls state chronicle).2 := by
  induction calls generalizing state chronicle now with
  | nil => exact announced
  | cons call rest ih =>
      have passed := List.rel_of_pairwise_cons ordered List.mem_cons_self
      have here := minding.later passed
      obtain ⟨after, others⟩ := List.pairwise_cons.mp seedsFirst
      refine ih (chronicle_minding hooked here) (List.pairwise_cons.mp ordered).2 others ?_ ?_
      · apply chronicle_announced hooked here announced
        exact unseeded.imp_right (fun none => none call List.mem_cons_self)
      · cases evaluates : call.evaluates with
        | true => exact .inr (fun later member => after later member evaluates)
        | false =>
            rw [not_evaluates_terminalError evaluates]
            exact unseeded.imp_right
              (fun none later member => none later (List.mem_cons_of_mem call member))

theorem new_minding (config : RequiredConsumerLivenessConfig) (start : Nat) :
    Minding config start start (new config start) Chronicle.initial :=
  ⟨rfl, minds_new config start⟩

/-- The hook is called for a consumer at the first overdue look of each window, and at no
other time; so it is called at most once in a window, and no shutdown for the consumer is
returned in a window without it. -/
theorem one_alert_per_stall (config : RequiredConsumerLivenessConfig)
    (hooked : config.alertHook = true) (start : Nat) (calls : List LivenessCall) (now : Nat)
    (ordered : (start :: (calls.map LivenessCall.now ++ [now])).Pairwise (· ≤ ·))
    {state : RequiredConsumerLivenessState} {chronicle : Chronicle}
    (ran : LivenessCall.chronicles calls (new config start) Chronicle.initial =
      (state, chronicle)) (consumerId : ConsumerId) :
    (∀ before, before <+: chronicle.history consumerId →
      (account (-1) start before).raised ≤ 1) ∧
    (∀ before alert later,
      before ++ .raised alert :: later = chronicle.history consumerId →
      ∃ earlier sighting, before = earlier ++ [.saw sighting] ∧
        FirstOverdue config.progressTimeout (account (-1) start earlier) sighting) ∧
    (∀ before sighting later,
      before ++ .saw sighting :: later = chronicle.history consumerId →
      FirstOverdue config.progressTimeout (account (-1) start before) sighting →
      ∃ alert rest, later = .raised alert :: rest) ∧
    ∀ producerSequence answers lastSequence stalledFor after seen, SeedsFirst calls →
      (LivenessCall.evaluateBlocked now producerSequence answers).chronicle state chronicle =
        ((some (.gracefulShutdownTriggered consumerId lastSequence stalledFor), after), seen) →
      (account (-1) start (seen.history consumerId)).raised = 1 := by
  have minding := chronicles_minding hooked (new_minding config start) ordered
  have announced : SeedsFirst calls → Announced start
      (LivenessCall.chronicles calls (new config start) Chronicle.initial).1.terminalError
      (LivenessCall.chronicles calls (new config start) Chronicle.initial).2 := by
    intro seedsFirst
    apply chronicles_announced hooked (new_minding config start) _ seedsFirst announced_none
      (.inl rfl)
    have shorter : (start :: calls.map LivenessCall.now).Sublist
        (start :: (calls.map LivenessCall.now ++ [now])) :=
      (List.sublist_append_left _ _).cons_cons start
    exact ordered.sublist shorter
  rw [ran] at minding announced
  have alerting := (minding.minds consumerId).alerting
  refine ⟨fun before => alerting.one_alarm, fun before alert later => alerting.raised_for,
    fun before sighting later => alerting.raises, ?_⟩
  intro producerSequence answers lastSequence stalledFor after seen seedsFirst returned
  have told := (evaluateBlocked_minding hooked (minding.asked answers) returned).2
    (announced seedsFirst)
  exact told.1 consumerId lastSequence stalledFor rfl

/-- A consumer that is seeded, gets its alert and is given up. -/
theorem one_alert_per_stall_impatient : ∃ state chronicle after seen,
    LivenessCall.chronicles [.seedProgress 0 [some 3], .evaluateBlocked 10 8 [some 3]]
      (new impatient 0) Chronicle.initial = (state, chronicle) ∧
    (LivenessCall.evaluateBlocked 15 8 [none]).chronicle state chronicle =
      ((some (.gracefulShutdownTriggered "c1" 3 15), after), seen) ∧
    (account (-1) 0 (seen.history "c1")).raised = 1 := by
  have returned : ((LivenessCall.evaluateBlocked 15 8 [none]).chronicle
      (LivenessCall.chronicles [.seedProgress 0 [some 3], .evaluateBlocked 10 8 [some 3]]
        (new impatient 0) Chronicle.initial).1
      (LivenessCall.chronicles [.seedProgress 0 [some 3], .evaluateBlocked 10 8 [some 3]]
        (new impatient 0) Chronicle.initial).2).1.1 =
      some (.gracefulShutdownTriggered "c1" 3 15) := rfl
  have whole := Prod.ext (Prod.ext returned rfl) rfl
  refine ⟨_, _, _, _, rfl, whole, ?_⟩
  exact (one_alert_per_stall impatient rfl 0
    [.seedProgress 0 [some 3], .evaluateBlocked 10 8 [some 3]] 15 (by decide) rfl "c1").2.2.2
    8 [none] 3 15 _ _ (by unfold SeedsFirst; decide) whole

/-- A consumer that is given up, and then seeded once more. -/
def reseeded : List LivenessCall :=
  [.seedProgress 0 [some 3], .evaluateBlocked 10 8 [some 3], .evaluateBlocked 15 8 [none],
    .seedProgress 20 [some 3]]

/-- A seed starts a window, and leaves the error of an earlier one: the next evaluation returns
it, and the hook has not been called. -/
theorem shutdown_without_alert : ∃ state chronicle after seen,
    LivenessCall.chronicles reseeded (new impatient 0) Chronicle.initial = (state, chronicle) ∧
    (LivenessCall.evaluateBlocked 25 8 [some 3]).chronicle state chronicle =
      ((some (.gracefulShutdownTriggered "c1" 3 15), after), seen) ∧
    (account (-1) 0 (seen.history "c1")).raised = 0 := by
  have returned : ((LivenessCall.evaluateBlocked 25 8 [some 3]).chronicle
      (LivenessCall.chronicles reseeded (new impatient 0) Chronicle.initial).1
      (LivenessCall.chronicles reseeded (new impatient 0) Chronicle.initial).2).1.1 =
      some (.gracefulShutdownTriggered "c1" 3 15) := rfl
  exact ⟨_, _, _, _, rfl, Prod.ext (Prod.ext returned rfl) rfl, rfl⟩

end RequiredConsumerLivenessState
end Ring
