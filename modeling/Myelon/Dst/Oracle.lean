/-
The message oracle of the simulation runner.

Every consumer is expected to report what was published, message by message. The
oracle collects what is wrong with a report; a report without a violation passes.
-/

import Mathlib.Algebra.Order.Ring.Int
import Mathlib.Data.List.Chain
import Mathlib.Data.List.Infix

namespace Dst

structure OracleMessage where
  sequence : UInt64
  payloadHash : UInt64
  payloadLen : Nat
  timestampNs : UInt64
  deriving DecidableEq

inductive OracleViolation where
  | sequenceGap (consumer : Nat) (expected got : UInt64)
  | sequenceReorder (consumer : Nat) (prev got : UInt64)
  | payloadMismatch (consumer : Nat) (sequence expectedHash gotHash : UInt64)
  | payloadSizeMismatch (consumer : Nat) (sequence : UInt64) (expected got : Nat)
  | missingMessages (consumer : Nat) (expected consumed : UInt64)
  | extraMessages (consumer : Nat) (expected consumed : UInt64)
  deriving DecidableEq

structure MessageOracle where
  published : List OracleMessage
  expectedPerConsumer : List (List OracleMessage)

def MessageOracle.withBroadcastConsumers (consumers : Nat) : MessageOracle where
  published := []
  expectedPerConsumer := List.replicate consumers []

def MessageOracle.recordPublish (oracle : MessageOracle) (msg : OracleMessage) :
    MessageOracle where
  published := oracle.published ++ [msg]
  expectedPerConsumer := oracle.expectedPerConsumer.map (· ++ [msg])

def MessageOracle.extendPublished (oracle : MessageOracle) (messages : List OracleMessage) :
    MessageOracle :=
  messages.foldl MessageOracle.recordPublish oracle

/-- An id without a list panics. -/
def MessageOracle.expectedForConsumer (oracle : MessageOracle) (consumerId : Nat) :
    Option (List OracleMessage) :=
  oracle.expectedPerConsumer[consumerId]?

/-! ### Verification -/

def reorderViolations (consumerId : Nat) (previous : Option UInt64) (actual : OracleMessage) :
    List OracleViolation :=
  match previous with
  | some prev =>
      if actual.sequence ≤ prev then [.sequenceReorder consumerId prev actual.sequence] else []
  | none => []

/-- A message under another number is a gap, and its payload is not looked at. -/
def messageViolations (consumerId : Nat) (expected actual : OracleMessage) :
    List OracleViolation :=
  if actual.sequence ≠ expected.sequence then
    [.sequenceGap consumerId expected.sequence actual.sequence]
  else
    (if actual.payloadHash ≠ expected.payloadHash then
      [.payloadMismatch consumerId actual.sequence expected.payloadHash actual.payloadHash]
    else []) ++
    (if actual.payloadLen ≠ expected.payloadLen then
      [.payloadSizeMismatch consumerId actual.sequence expected.payloadLen actual.payloadLen]
    else [])

/-- The loop over the messages from `index` on; `consumed` is the length of the whole
report. The first message too many ends it. -/
def loopViolations (consumerId : Nat) (expected : List OracleMessage) (consumed : Nat) :
    Nat → Option UInt64 → List OracleMessage → List OracleViolation
  | _, _, [] => []
  | index, previous, actual :: later =>
      reorderViolations consumerId previous actual ++
      match expected[index]? with
      | none =>
          [.extraMessages consumerId (UInt64.ofNat expected.length) (UInt64.ofNat consumed)]
      | some message =>
          messageViolations consumerId message actual ++
          loopViolations consumerId expected consumed (index + 1) (some actual.sequence) later

def consumerViolations (consumerId : Nat) (expected actual : List OracleMessage) :
    List OracleViolation :=
  loopViolations consumerId expected actual.length 0 none actual ++
  (if actual.length < expected.length then
    [.missingMessages consumerId (UInt64.ofNat expected.length) (UInt64.ofNat actual.length)]
  else [])

def verdict (violations : List OracleViolation) : Except (List OracleViolation) Unit :=
  if violations.isEmpty then .ok () else .error violations

def MessageOracle.verifyConsumerMessages (oracle : MessageOracle) (consumerId : Nat)
    (actual : List OracleMessage) : Option (Except (List OracleViolation) Unit) := do
  let expected ← oracle.expectedForConsumer consumerId
  return verdict (consumerViolations consumerId expected actual)

/-- What is wrong with the reports from `consumerId` on. A report of no known consumer
panics. -/
def MessageOracle.completeViolations (oracle : MessageOracle) :
    Nat → List (List OracleMessage) → Option (List OracleViolation)
  | _, [] => some []
  | consumerId, report :: later => do
      let result ← oracle.verifyConsumerMessages consumerId report
      let violations ← oracle.completeViolations (consumerId + 1) later
      match result with
      | .ok () => return violations
      | .error errs => return errs ++ violations

def MessageOracle.verifyComplete (oracle : MessageOracle) (reports : List (List OracleMessage)) :
    Option (Except (List OracleViolation) Unit) := do
  let violations ← oracle.completeViolations 0 reports
  return verdict violations

/-! ### What an oracle expects -/

@[simp] theorem extendPublished_nil (oracle : MessageOracle) :
    oracle.extendPublished [] = oracle := rfl

@[simp] theorem extendPublished_cons (oracle : MessageOracle) (message : OracleMessage)
    (later : List OracleMessage) :
    oracle.extendPublished (message :: later) =
      (oracle.recordPublish message).extendPublished later := rfl

theorem extendPublished_expected (oracle : MessageOracle) (messages : List OracleMessage) :
    (oracle.extendPublished messages).expectedPerConsumer =
      oracle.expectedPerConsumer.map (· ++ messages) := by
  induction messages generalizing oracle with
  | nil => simp only [extendPublished_nil, List.append_nil, List.map_id']
  | cons message later ih =>
    rw [extendPublished_cons, ih]
    simp only [MessageOracle.recordPublish, List.map_map, Function.comp_def, List.append_assoc,
      List.cons_append, List.nil_append]

theorem expectedForConsumer_broadcast {consumers consumerId : Nat}
    (messages : List OracleMessage) (known : consumerId < consumers) :
    ((MessageOracle.withBroadcastConsumers consumers).extendPublished
      messages).expectedForConsumer consumerId = some messages := by
  rw [MessageOracle.expectedForConsumer, extendPublished_expected]
  simp only [MessageOracle.withBroadcastConsumers, List.map_replicate, List.nil_append]
  rw [List.getElem?_replicate, if_pos known]

/-! ### What passes -/

def record (message : OracleMessage) : UInt64 × UInt64 × Nat :=
  (message.sequence, message.payloadHash, message.payloadLen)

def Increasing (messages : List OracleMessage) : Prop :=
  List.IsChain (· < ·) (messages.map OracleMessage.sequence)

theorem verdict_ok_iff (violations : List OracleViolation) :
    verdict violations = .ok () ↔ violations = [] := by
  unfold verdict
  cases violations with
  | nil => exact ⟨fun _ => rfl, fun _ => rfl⟩
  | cons first later =>
    constructor
    · intro passed
      cases passed
    · intro empty
      cases empty

theorem messageViolations_nil_iff (consumerId : Nat) (expected actual : OracleMessage) :
    messageViolations consumerId expected actual = [] ↔ record actual = record expected := by
  unfold messageViolations record
  simp only [Prod.mk.injEq]
  by_cases sameSequence : actual.sequence = expected.sequence
  · rw [if_neg (not_not.mpr sameSequence), List.append_eq_nil_iff]
    simp only [ne_eq, ite_eq_right_iff, imp_false, not_not, sameSequence,
      true_and, List.cons_ne_nil]
  · rw [if_pos sameSequence]
    simp only [List.cons_ne_nil, sameSequence, false_and]

theorem reorderViolations_nil_iff (consumerId : Nat) (previous : Option UInt64)
    (actual : OracleMessage) :
    reorderViolations consumerId previous actual = [] ↔
      ∀ prev, previous = some prev → prev < actual.sequence := by
  cases previous with
  | none =>
    constructor
    · intro _ prev absent
      cases absent
    · intro _
      rfl
  | some prev =>
    simp only [reorderViolations, ite_eq_right_iff, List.cons_ne_nil, imp_false,
      UInt64.not_le, Option.some.injEq, forall_eq']

theorem increasing_cons_iff (previous : Option UInt64) (actual : OracleMessage)
    (later : List OracleMessage) :
    List.IsChain (· < ·) (previous.toList ++ (actual :: later).map OracleMessage.sequence) ↔
      (∀ prev, previous = some prev → prev < actual.sequence) ∧
        List.IsChain (· < ·) ((some actual.sequence).toList ++
          later.map OracleMessage.sequence) := by
  cases previous with
  | none => simp
  | some prev =>
    simp only [Option.toList_some, List.map_cons, List.cons_append, List.nil_append,
      List.isChain_cons_cons, Option.some.injEq, forall_eq']

theorem loopViolations_nil_iff (consumerId : Nat) (expected : List OracleMessage)
    (consumed index : Nat) (previous : Option UInt64) (actual : List OracleMessage) :
    loopViolations consumerId expected consumed index previous actual = [] ↔
      actual.map record <+: (expected.drop index).map record ∧
        List.IsChain (· < ·) (previous.toList ++ actual.map OracleMessage.sequence) := by
  induction actual generalizing index previous with
  | nil =>
    constructor
    · intro _
      constructor
      · exact List.nil_prefix
      · cases previous with
        | none => exact List.isChain_nil
        | some prev => exact List.isChain_singleton prev
    · intro _
      rfl
  | cons actual later ih =>
    rw [loopViolations, List.append_eq_nil_iff, reorderViolations_nil_iff, increasing_cons_iff]
    cases found : expected[index]? with
    | none =>
      have beyond : expected.drop index = [] :=
        List.drop_eq_nil_of_le (List.getElem?_eq_none_iff.mp found)
      simp only [beyond, List.map_cons, List.map_nil, List.prefix_nil, List.cons_ne_nil,
        and_false, false_and]
    | some message =>
      obtain ⟨inside, here⟩ := List.getElem?_eq_some_iff.mp found
      dsimp only
      rw [List.append_eq_nil_iff, messageViolations_nil_iff, ih,
        List.drop_eq_getElem_cons inside, here, List.map_cons, List.map_cons,
        List.cons_prefix_cons]
      tauto

theorem consumerViolations_nil_iff (consumerId : Nat) (expected actual : List OracleMessage) :
    consumerViolations consumerId expected actual = [] ↔
      actual.map record = expected.map record ∧ Increasing actual := by
  rw [consumerViolations, List.append_eq_nil_iff, loopViolations_nil_iff, List.drop_zero]
  simp only [Option.toList_none, List.nil_append, ite_eq_right_iff, List.cons_ne_nil, imp_false,
    not_lt]
  constructor
  · intro ⟨⟨front, increasing⟩, enough⟩
    constructor
    · apply front.eq_of_length_le
      rw [List.length_map, List.length_map]
      exact enough
    · exact increasing
  · intro ⟨same, increasing⟩
    have lengths := congrArg List.length same
    rw [List.length_map, List.length_map] at lengths
    exact ⟨⟨same ▸ List.prefix_refl _, increasing⟩, lengths.ge⟩

theorem verifyConsumerMessages_broadcast {consumers consumerId : Nat}
    (published actual : List OracleMessage) (known : consumerId < consumers) :
    ((MessageOracle.withBroadcastConsumers consumers).extendPublished
      published).verifyConsumerMessages consumerId actual = some (.ok ()) ↔
        actual.map record = published.map record ∧ Increasing actual := by
  rw [MessageOracle.verifyConsumerMessages, expectedForConsumer_broadcast published known,
    ← consumerViolations_nil_iff consumerId, ← verdict_ok_iff]
  exact Option.some_inj

/-! ### Whole runs -/

/-- The report lists what was published, under numbers that grow. -/
def Observes (published report : List OracleMessage) : Prop :=
  report.map record = published.map record ∧ Increasing report

theorem completeViolations_broadcast {consumers : Nat} (published : List OracleMessage)
    (consumerId : Nat) (reports : List (List OracleMessage))
    (known : consumerId + reports.length ≤ consumers) :
    ∃ violations, ((MessageOracle.withBroadcastConsumers consumers).extendPublished
        published).completeViolations consumerId reports = some violations ∧
      (violations = [] ↔ ∀ report ∈ reports, Observes published report) := by
  induction reports generalizing consumerId with
  | nil =>
    refine ⟨[], rfl, ?_⟩
    simp
  | cons report later ih =>
    rw [List.length_cons] at known
    obtain ⟨violations, found, none⟩ := ih (consumerId + 1) (by omega)
    have here := @expectedForConsumer_broadcast consumers consumerId published (by omega)
    have passes := consumerViolations_nil_iff consumerId published report
    rw [MessageOracle.completeViolations, MessageOracle.verifyConsumerMessages, here, found]
    cases wrong : consumerViolations consumerId published report with
    | nil =>
      have observed : Observes published report := passes.mp wrong
      refine ⟨violations, ?_, ?_⟩
      · simp [verdict, wrong]
      · rw [none]
        simp [observed]
    | cons first rest =>
      have missed : ¬ Observes published report := by
        intro observed
        have empty := passes.mpr observed
        rw [wrong] at empty
        cases empty
      refine ⟨(first :: rest) ++ violations, ?_, ?_⟩
      · simp [verdict, wrong]
      · simp [missed]

theorem expectedForConsumer_unknown {consumers consumerId : Nat}
    (messages : List OracleMessage) (unknown : consumers ≤ consumerId) :
    ((MessageOracle.withBroadcastConsumers consumers).extendPublished
      messages).expectedForConsumer consumerId = none := by
  rw [MessageOracle.expectedForConsumer, extendPublished_expected]
  simp only [MessageOracle.withBroadcastConsumers, List.map_replicate, List.nil_append]
  rw [List.getElem?_replicate, if_neg (Nat.not_lt.mpr unknown)]

/-- The reports of known consumers come first, so it is a later one that panics. -/
theorem completeViolations_panics {consumers : Nat} (published : List OracleMessage)
    (consumerId : Nat) (reports : List (List OracleMessage)) (known : consumerId ≤ consumers)
    (unknown : consumers < consumerId + reports.length) :
    ((MessageOracle.withBroadcastConsumers consumers).extendPublished
      published).completeViolations consumerId reports = none := by
  induction reports generalizing consumerId with
  | nil =>
    rw [List.length_nil] at unknown
    omega
  | cons report later ih =>
    rw [List.length_cons] at unknown
    rw [MessageOracle.completeViolations, MessageOracle.verifyConsumerMessages]
    by_cases last : consumerId = consumers
    · rw [expectedForConsumer_unknown published (Nat.le_of_eq last.symm)]
      rfl
    · have here := @expectedForConsumer_broadcast consumers consumerId published (by omega)
      rw [here, ih (consumerId + 1) (by omega) (by omega)]
      rfl

theorem verifyComplete_known {consumers : Nat} (published : List OracleMessage)
    (reports : List (List OracleMessage)) (known : reports.length ≤ consumers) :
    ∃ result, ((MessageOracle.withBroadcastConsumers consumers).extendPublished
        published).verifyComplete reports = some result ∧
      (result = .ok () ↔ ∀ report ∈ reports, Observes published report) := by
  obtain ⟨violations, found, none⟩ :=
    @completeViolations_broadcast consumers published 0 reports (by omega)
  refine ⟨verdict violations, ?_, ?_⟩
  · rw [MessageOracle.verifyComplete, found]
    rfl
  · rw [verdict_ok_iff]
    exact none

theorem verifyComplete_unknown {consumers : Nat} (published : List OracleMessage)
    (reports : List (List OracleMessage)) (unknown : consumers < reports.length) :
    ((MessageOracle.withBroadcastConsumers consumers).extendPublished
      published).verifyComplete reports = none := by
  rw [MessageOracle.verifyComplete,
    completeViolations_panics published 0 reports (Nat.zero_le consumers) (by omega)]
  rfl

/-- Each report is decided exactly. All of them together are decided exactly where there is
one for each consumer, or where too few have one that is wrong. -/
theorem verification_exact_iff (consumers : Nat) (published : List OracleMessage)
    (reports : List (List OracleMessage)) :
    (∀ consumerId < consumers, ∀ report,
      ((MessageOracle.withBroadcastConsumers consumers).extendPublished
        published).verifyConsumerMessages consumerId report = some (.ok ()) ↔
          report.map record = published.map record ∧ Increasing report) ∧
    ((∃ result, ((MessageOracle.withBroadcastConsumers consumers).extendPublished
        published).verifyComplete reports = some result ∧
      (result = .ok () ↔
        reports.length = consumers ∧ ∀ report ∈ reports, Observes published report)) ↔
    reports.length = consumers ∨
      reports.length < consumers ∧ ∃ report ∈ reports, ¬ Observes published report) := by
  constructor
  · intro consumerId known report
    exact verifyConsumerMessages_broadcast published report known
  · constructor
    · rintro ⟨result, found, exact⟩
      rcases Nat.lt_trichotomy reports.length consumers with fewer | same | more
      · right
        constructor
        · exact fewer
        · by_contra none
          have right : ∀ report ∈ reports, Observes published report := by
            intro report member
            by_contra wrong
            exact none ⟨report, member, wrong⟩
          obtain ⟨other, foundToo, passes⟩ :=
            verifyComplete_known published reports (Nat.le_of_lt fewer)
          rw [found] at foundToo
          cases foundToo
          have both := exact.mp (passes.mpr right)
          exact absurd both.1 (Nat.ne_of_lt fewer)
      · exact .inl same
      · rw [verifyComplete_unknown published reports more] at found
        cases found
    · intro decided
      have known : reports.length ≤ consumers := by
        rcases decided with same | ⟨fewer, _⟩
        · exact Nat.le_of_eq same
        · exact Nat.le_of_lt fewer
      obtain ⟨result, found, passes⟩ := verifyComplete_known published reports known
      refine ⟨result, found, passes.trans ?_⟩
      rcases decided with same | ⟨fewer, report, member, wrong⟩
      · simp only [same, true_and]
      · constructor
        · intro right
          exact absurd (right report member) wrong
        · intro both
          exact absurd both.1 (Nat.ne_of_lt fewer)

def reported : OracleMessage :=
  { sequence := 0, payloadHash := 7, payloadLen := 4, timestampNs := 0 }

/-- Of two consumers one reports, and the run passes; a report too many panics. -/
theorem verification_passes_missing :
    ((MessageOracle.withBroadcastConsumers 2).extendPublished [reported]).verifyComplete
      [[reported]] = some (.ok ()) ∧
    ((MessageOracle.withBroadcastConsumers 1).extendPublished [reported]).verifyComplete
      [[reported], [reported]] = none := by
  constructor
  · rfl
  · rfl

end Dst
