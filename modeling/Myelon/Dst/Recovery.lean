/-
The reports of a run in which the producer was killed and started again.

The producer starts behind the last message that its report, as far as it was written down,
lists. Its consumers are killed as well, and start again with it. What they report before
and after the restart overlaps, or leaves a hole, by as much as they had lagged behind or run
ahead of what the producer had written down.
-/

import Mathlib.Data.List.ReduceOption
import Myelon.Dst.Payload

namespace Dst

open Delivery

/-- Adding past the range panics. -/
def reportNextSequence (report : ChildReport) : Option (Option UInt64) :=
  match report.messages.getLast? with
  | some message => (following message.sequence).map some
  | none => some none

def nextSequences : List (Option ChildReport) → Option (List UInt64)
  | [] => some []
  | none :: later => nextSequences later
  | some report :: later => do
      let next ← reportNextSequence report
      let others ← nextSequences later
      return next.toList ++ others

def producerNextSequence : Option ChildReport → Option (Option UInt64)
  | some report => reportNextSequence report
  | none => some none

def restartSequenceStart (producer : Option ChildReport)
    (partialConsumers : List (Option ChildReport)) : Option UInt64 := do
  let producerNext ← producerNextSequence producer
  let consumerNext ← nextSequences partialConsumers
  return max (producerNext.getD 0) (consumerNext.foldl max 0)

def backfillReportFromConsumers (producer : ChildReport)
    (partialConsumers : List (Option ChildReport)) (published : UInt64) : Option ChildReport := do
  let next ← reportNextSequence producer
  let nextMissing := next.getD 0
  if published ≤ nextMissing then return producer
  let recovered := (partialConsumers.reduceOption.flatMap ChildReport.messages).filter
    fun message => decide (nextMissing ≤ message.sequence) && decide (message.sequence < published)
  let messages := producer.messages ++ dedupByKey number (sortByKey number recovered)
  return { producer with messages := messages, checksumTotal := checksum messages }

def backfillPartial (partialProducer : Option ChildReport)
    (partialConsumers : List (Option ChildReport)) (published : UInt64) :
    Option (Option ChildReport) :=
  match partialProducer with
  | some report => (backfillReportFromConsumers report partialConsumers published).map some
  | none => some none

def concatChildReports (prefixReport : Option ChildReport) (suffix : ChildReport) : ChildReport :=
  let merged := prefixReport.getD (emptyReport suffix)
  let messages := withoutOverlap merged.messages suffix.messages
  { role := merged.role
    messages := messages
    checksumTotal := checksum messages
    backpressureEvents := merged.backpressureEvents + suffix.backpressureEvents
    attachedAfterMs := min merged.attachedAfterMs suffix.attachedAfterMs }

/-- The fault, and what the run makes of the reports. The consumers are killed only after it
is settled where the producer starts again, so what they have written down is not read for
that. `restart` tells what the children report that are started with this number. -/
def producerKillAndRestart (messageCount : Nat) (partialProducer : Option ChildReport)
    (partialConsumers : List (Option ChildReport))
    (restart : UInt64 → Option (ChildReport × List ChildReport)) :
    Option (Except String (ChildReport × List ChildReport)) := do
  let unread : List (Option ChildReport) := partialConsumers.map fun _ => none
  let published ← restartSequenceStart partialProducer unread
  if messageCount ≤ published.toNat then
    return .error "producer kill-and-restart fault fired after producer completed"
  let partialProducer ← backfillPartial partialProducer unread published
  let (producerSuffix, consumerSuffixes) ← restart published
  let producerReport := concatChildReports partialProducer producerSuffix
  let consumerReports ← (partialConsumers.zip consumerSuffixes).mapM fun reports =>
    mergeChildReports producerReport reports.1 reports.2
  return .ok (producerReport, consumerReports)

/-! ### Reports that are parts of one list -/

section Parts

variable {log : List OracleMessage}

theorem following_ofNat {last : UInt64} {count : Nat} (counted : last.toNat + 1 = count)
    (inRange : count < 2 ^ 64) : following last = some (UInt64.ofNat count) := by
  rw [following, if_pos (by omega)]
  apply congrArg some
  apply UInt64.toNat_inj.mp
  rw [UInt64.toNat_ofNat_of_lt' inRange, UInt64.toNat_add]
  change (last.toNat + 1) % 2 ^ 64 = count
  rw [counted, Nat.mod_eq_of_lt inRange]

theorem getLast?_take (numbered : Numbered number 0 log) {count : Nat}
    (inside : count ≤ log.length) :
    (log.take count).getLast? = none ∧ count = 0 ∨
      ∃ message, (log.take count).getLast? = some message ∧ number message + 1 = count := by
  cases count with
  | zero => exact .inl ⟨rfl, rfl⟩
  | succ before =>
    right
    have found := List.getElem?_eq_getElem (show before < log.length by omega)
    refine ⟨log[before], ?_, ?_⟩
    · rw [List.getLast?_eq_getElem?, List.length_take, Nat.min_eq_left inside,
        List.getElem?_take_of_lt (by omega), Nat.add_sub_cancel, found]
    · rw [numbered.getElem? found]
      omega

theorem gapStart_take (numbered : Numbered number 0 log) {count : Nat}
    (inside : count ≤ log.length) (inRange : log.length < 2 ^ 64) :
    gapStart (log.take count) = some (UInt64.ofNat count) := by
  rcases getLast?_take numbered inside with ⟨none, zero⟩ | ⟨message, last, counted⟩
  · rw [gapStart, none, zero]
    rfl
  · rw [gapStart, last]
    exact following_ofNat counted (by omega)

theorem withoutOverlap_parts (numbered : Numbered number 0 log) {front back : Nat}
    (meets : back ≤ front) (inside : front ≤ log.length) :
    withoutOverlap (log.take front) (log.drop back) = log := by
  have behind : (log.drop back).filter (beyond ((log.take front).getLast?.map
      OracleMessage.sequence)) = log.drop front := by
    have window := (numbered.drop back).filter_window front (back + (log.drop back).length)
    rw [Nat.zero_add, Nat.add_sub_cancel_left, List.take_length, List.drop_drop,
      Nat.add_sub_cancel' meets] at window
    rw [← window]
    apply List.filter_congr
    intro message member
    have upper := ((numbered.drop back).le_of_mem member).2
    rw [Nat.zero_add] at upper
    rw [decide_eq_true upper, Bool.and_true]
    rcases getLast?_take numbered inside with ⟨none, zero⟩ | ⟨last, final, counted⟩
    · rw [none, zero]
      exact (decide_eq_true (Nat.zero_le _)).symm
    · rw [final, Option.map_some, beyond, decide_eq_decide, UInt64.lt_iff_toNat_lt, ← counted]
      exact Nat.lt_iff_add_one_le
  rw [withoutOverlap, behind, List.take_append_drop]

/-- The report of a child that had written down this many messages of the list. -/
def WrittenDown (log : List OracleMessage) (report : Option ChildReport) (count : Nat) : Prop :=
  prefixMessages report = log.take count ∧ count ≤ log.length

theorem WrittenDown.none_zero {count : Nat} (written : WrittenDown log none count) : count = 0 := by
  have lengths := congrArg List.length written.1
  rw [List.length_take, Nat.min_eq_left written.2] at lengths
  exact lengths.symm

theorem firstSuffixSeq_drop (numbered : Numbered number 0 log) (producer : ChildReport)
    {suffix : ChildReport}
    {start : Nat} (rest : suffix.messages = log.drop start) (remains : start < log.length) :
    (firstSuffixSeq producer suffix).toNat = start := by
  have found := List.getElem?_eq_getElem remains
  have first : suffix.messages.head? = some log[start] := by
    rw [rest, List.head?_drop, found]
  rw [firstSuffixSeq, first]
  change number log[start] = start
  rw [numbered.getElem? found, Nat.zero_add]

/-- A consumer that is started again with its producer ends up with everything, wherever it
had been. -/
theorem merged_parts (numbered : Numbered number 0 log) (inRange : log.length < 2 ^ 64)
    {producer suffix : ChildReport} {partialReport : Option ChildReport} {count start : Nat}
    (written : WrittenDown log partialReport count) (published : producer.messages = log)
    (rest : suffix.messages = log.drop start) (remains : start < log.length) :
    ∃ merged, mergeChildReports producer partialReport suffix = some merged ∧
      merged.messages = log ∧ merged.checksumTotal = checksum log := by
  obtain ⟨front, inside⟩ := written
  have hole := gapStart_take numbered inside inRange
  have low : (UInt64.ofNat count).toNat = count := UInt64.toNat_ofNat_of_lt' (by
    exact Nat.lt_of_le_of_lt inside inRange)
  have begins := firstSuffixSeq_drop numbered producer rest remains
  have filled : log.take count ++ gapFill producer (UInt64.ofNat count)
      (firstSuffixSeq producer suffix) = log.take (max count start) := by
    rw [gapFill_eq _ _ (published ▸ numbered), published, low, begins]
    rcases Nat.le_total count start with lags | ahead
    · have same : log.take count = (log.take start).take count := by
        rw [List.take_take, Nat.min_eq_left lags]
      rw [same, List.take_append_drop, Nat.max_eq_right lags]
    · rw [List.drop_eq_nil_of_le (by rw [List.length_take]; omega), List.append_nil,
        Nat.max_eq_left ahead]
  have joined : withoutOverlap (log.take (max count start)) (log.drop start) = log :=
    withoutOverlap_parts numbered (Nat.le_max_right count start)
      (Nat.max_le.mpr ⟨inside, Nat.le_of_lt remains⟩)
  have before := prefixMessages_eq partialReport suffix
  rw [front] at before
  have made : mergeChildReports producer partialReport suffix = some
      { role := (partialReport.getD (emptyReport suffix)).role
        messages := log
        checksumTotal := checksum log
        backpressureEvents := (partialReport.getD (emptyReport suffix)).backpressureEvents +
          suffix.backpressureEvents
        attachedAfterMs := min (partialReport.getD (emptyReport suffix)).attachedAfterMs
          suffix.attachedAfterMs } := by
    rw [mergeChildReports]
    dsimp only
    rw [before, hole, Option.bind_eq_bind, Option.bind_some, filled, rest, joined]
    rfl
  exact ⟨_, made, rfl, rfl⟩

theorem concat_parts (numbered : Numbered number 0 log) {suffix : ChildReport}
    {partialReport : Option ChildReport} {count : Nat}
    (written : WrittenDown log partialReport count) (rest : suffix.messages = log.drop count) :
    (concatChildReports partialReport suffix).messages = log := by
  have before := prefixMessages_eq partialReport suffix
  rw [written.1] at before
  rw [concatChildReports]
  dsimp only
  rw [before, rest]
  exact withoutOverlap_parts numbered (Nat.le_refl count) written.2

/-! ### Filling up the report of the producer -/

def AllParts (log : List OracleMessage) (reports : List (Option ChildReport)) : Prop :=
  ∀ report ∈ reports, ∃ count, WrittenDown log report count

theorem reportNextSequence_part (numbered : Numbered number 0 log) (inRange : log.length < 2 ^ 64)
    {report : ChildReport} {count : Nat} (written : WrittenDown log (some report) count) :
    ∃ next, reportNextSequence report = some next ∧ (next.getD 0).toNat = count ∧
      (next = none → count = 0) := by
  obtain ⟨front, inside⟩ := written
  change report.messages = log.take count at front
  rcases getLast?_take numbered inside with ⟨none, zero⟩ | ⟨message, last, counted⟩
  · refine ⟨.none, ?_, ?_, fun _ => zero⟩
    · rw [reportNextSequence, front, none]
    · rw [zero]
      rfl
  · refine ⟨some (UInt64.ofNat count), ?_, ?_, ?_⟩
    · rw [reportNextSequence, front, last]
      dsimp only
      rw [following_ofNat counted (by omega)]
      rfl
    · exact UInt64.toNat_ofNat_of_lt' (Nat.lt_of_le_of_lt inside inRange)
    · intro absurd
      cases absurd

theorem nextSequences_parts (numbered : Numbered number 0 log) (inRange : log.length < 2 ^ 64)
    {reports : List (Option ChildReport)} (parts : AllParts log reports) :
    ∃ nexts, nextSequences reports = some nexts ∧
      (∀ next ∈ nexts, ∃ report ∈ reports, WrittenDown log report next.toNat) ∧
      ∀ report ∈ reports, ∀ count, WrittenDown log report count →
        count = 0 ∨ ∃ next ∈ nexts, next.toNat = count := by
  induction reports with
  | nil =>
    refine ⟨[], rfl, ?_, ?_⟩
    · intro next absent
      cases absent
    · intro report absent
      cases absent
  | cons report later ih =>
    obtain ⟨others, found, sound, complete⟩ := ih fun other member =>
      parts other (List.mem_cons_of_mem report member)
    have behind (next : UInt64) (member : next ∈ others) :
        ∃ other ∈ report :: later, WrittenDown log other next.toNat := by
      obtain ⟨other, there, written⟩ := sound next member
      exact ⟨other, List.mem_cons_of_mem report there, written⟩
    cases report with
    | none =>
      refine ⟨others, found, behind, ?_⟩
      intro other member count written
      rcases List.mem_cons.mp member with same | there
      · subst same
        exact .inl written.none_zero
      · exact complete other there count written
    | some report =>
      obtain ⟨written, here⟩ := parts (some report) List.mem_cons_self
      obtain ⟨next, read, value, empty⟩ := reportNextSequence_part numbered inRange here
      refine ⟨next.toList ++ others, ?_, ?_, ?_⟩
      · rw [nextSequences, read, found]
        rfl
      · intro number member
        rcases List.mem_append.mp member with first | there
        · rw [Option.mem_toList] at first
          rw [first] at value
          exact ⟨some report, List.mem_cons_self, value ▸ here⟩
        · exact behind number there
      · intro other member count listed
        rcases List.mem_cons.mp member with same | there
        · subst same
          obtain ⟨again, readToo, valueToo, emptyToo⟩ :=
            reportNextSequence_part numbered inRange listed
          rw [read] at readToo
          cases Option.some.inj readToo
          cases next with
          | none => exact .inl (emptyToo rfl)
          | some next =>
            right
            exact ⟨next, List.mem_append_left _ List.mem_cons_self, valueToo⟩
        · rcases complete other there count listed with zero | ⟨number, member, value⟩
          · exact .inl zero
          · exact .inr ⟨number, List.mem_append_right _ member, value⟩

theorem max_cases (first second : UInt64) :
    max first second = first ∧ second ≤ first ∨ max first second = second ∧ first ≤ second := by
  change (if first ≤ second then second else first) = first ∧ second ≤ first ∨
    (if first ≤ second then second else first) = second ∧ first ≤ second
  by_cases less : first ≤ second
  · rw [if_pos less]
    exact .inr ⟨rfl, less⟩
  · rw [if_neg less]
    exact .inl ⟨rfl, (UInt64.le_total first second).resolve_left less⟩

theorem max_upper (first second : UInt64) :
    first ≤ max first second ∧ second ≤ max first second := by
  rcases max_cases first second with ⟨greatest, below⟩ | ⟨greatest, below⟩
  · rw [greatest]
    exact ⟨UInt64.le_refl first, below⟩
  · rw [greatest]
    exact ⟨below, UInt64.le_refl second⟩

theorem foldl_max (numbers : List UInt64) (first : UInt64) :
    numbers.foldl max first ∈ first :: numbers ∧
      ∀ number ∈ first :: numbers, number ≤ numbers.foldl max first := by
  induction numbers generalizing first with
  | nil =>
    constructor
    · exact List.mem_cons_self
    · intro number member
      rw [List.mem_singleton.mp member]
      exact UInt64.le_refl _
  | cons second later ih =>
    obtain ⟨reached, upper⟩ := ih (max first second)
    have bounds := upper (max first second) List.mem_cons_self
    constructor
    · rcases List.mem_cons.mp reached with same | behind
      · rw [List.foldl_cons, same]
        rcases max_cases first second with ⟨greatest, _⟩ | ⟨greatest, _⟩
        · rw [greatest]
          exact List.mem_cons_self
        · rw [greatest]
          exact List.mem_cons_of_mem first List.mem_cons_self
      · exact List.mem_cons_of_mem first (List.mem_cons_of_mem second behind)
    · intro number member
      rw [List.foldl_cons]
      rcases List.mem_cons.mp member with same | rest
      · rw [same]
        exact UInt64.le_trans (max_upper first second).1 bounds
      · rcases List.mem_cons.mp rest with same | behind
        · rw [same]
          exact UInt64.le_trans (max_upper first second).2 bounds
        · exact upper number (List.mem_cons_of_mem _ behind)

structure Furthest (log : List OracleMessage) (reports : List (Option ChildReport))
    (published : UInt64) : Prop where
  reached : ∃ report ∈ reports, WrittenDown log report published.toNat
  bound : ∀ report ∈ reports, ∀ count, WrittenDown log report count → count ≤ published.toNat

theorem producerNextSequence_part (numbered : Numbered number 0 log)
    (inRange : log.length < 2 ^ 64) {report : Option ChildReport} {count : Nat}
    (written : WrittenDown log report count) :
    ∃ next, producerNextSequence report = some next ∧ (next.getD 0).toNat = count := by
  cases report with
  | none => exact ⟨none, rfl, written.none_zero.symm⟩
  | some report =>
    obtain ⟨next, read, value, _⟩ := reportNextSequence_part numbered inRange written
    exact ⟨next, read, value⟩

theorem restartSequenceStart_parts (numbered : Numbered number 0 log)
    (inRange : log.length < 2 ^ 64) {producer : Option ChildReport}
    {partials : List (Option ChildReport)} (parts : AllParts log (producer :: partials)) :
    ∃ published, restartSequenceStart producer partials = some published ∧
      Furthest log (producer :: partials) published := by
  obtain ⟨count, written⟩ := parts producer List.mem_cons_self
  obtain ⟨own, readOwn, value⟩ := producerNextSequence_part numbered inRange written
  obtain ⟨nexts, read, sound, complete⟩ := nextSequences_parts numbered inRange
    (fun report member => parts report (List.mem_cons_of_mem producer member) :
      AllParts log partials)
  obtain ⟨attained, upper⟩ := foldl_max nexts 0
  obtain ⟨ownUpper, othersUpper⟩ := max_upper (own.getD 0) (nexts.foldl max 0)
  rw [UInt64.le_iff_toNat_le] at ownUpper othersUpper
  refine ⟨max (own.getD 0) (nexts.foldl max 0), ?_, ?_, ?_⟩
  · rw [restartSequenceStart, readOwn, read]
    rfl
  · rcases max_cases (own.getD 0) (nexts.foldl max 0) with ⟨greatest, _⟩ | ⟨greatest, below⟩
    · rw [greatest, value]
      exact ⟨producer, List.mem_cons_self, written⟩
    · rw [greatest]
      rcases List.mem_cons.mp attained with zero | member
      · -- nobody has anything, not even the producer
        rw [zero, UInt64.le_iff_toNat_le, value] at below
        rw [zero]
        rw [Nat.le_zero.mp below] at written
        exact ⟨producer, List.mem_cons_self, written⟩
      · obtain ⟨report, there, reached⟩ := sound _ member
        exact ⟨report, List.mem_cons_of_mem producer there, reached⟩
  · intro report member other listed
    rcases List.mem_cons.mp member with same | there
    · subst same
      obtain ⟨again, readToo, valueToo⟩ := producerNextSequence_part numbered inRange listed
      rw [readOwn] at readToo
      cases Option.some.inj readToo
      rw [← valueToo]
      exact ownUpper
    · rcases complete report there other listed with zero | ⟨next, member, reached⟩
      · rw [zero]
        exact Nat.zero_le _
      · have below := upper next (List.mem_cons_of_mem 0 member)
        rw [UInt64.le_iff_toNat_le] at below
        omega

theorem WrittenDown.unique {report : Option ChildReport} {count other : Nat}
    (written : WrittenDown log report count) (again : WrittenDown log report other) :
    count = other := by
  have lengths := congrArg List.length (written.1.symm.trans again.1)
  rw [List.length_take, List.length_take, Nat.min_eq_left written.2, Nat.min_eq_left again.2]
    at lengths
  exact lengths

theorem mem_recovered {reports : List (Option ChildReport)} {published : UInt64}
    (parts : AllParts log reports) (furthest : Furthest log reports published)
    (message : OracleMessage) :
    message ∈ reports.reduceOption.flatMap ChildReport.messages ↔
      message ∈ log.take published.toNat := by
  rw [List.mem_flatMap]
  constructor
  · intro ⟨report, member, listed⟩
    rw [List.reduceOption_mem_iff] at member
    obtain ⟨count, written⟩ := parts _ member
    rw [show report.messages = log.take count from written.1] at listed
    exact (List.take_prefix_take_left (furthest.bound _ member count written)).subset listed
  · intro listed
    obtain ⟨report, member, written⟩ := furthest.reached
    cases report with
    | none =>
      rw [written.none_zero] at listed
      cases listed
    | some report =>
      refine ⟨report, List.reduceOption_mem_iff.mpr member, ?_⟩
      rw [show report.messages = log.take published.toNat from written.1]
      exact listed

theorem Furthest.others {report : Option ChildReport} {reports : List (Option ChildReport)}
    {published : UInt64} {count : Nat} (furthest : Furthest log (report :: reports) published)
    (written : WrittenDown log report count) (behind : count < published.toNat) :
    Furthest log reports published := by
  constructor
  · obtain ⟨other, member, reached⟩ := furthest.reached
    rcases List.mem_cons.mp member with same | there
    · subst same
      exact absurd (written.unique reached) (Nat.ne_of_lt behind)
    · exact ⟨other, there, reached⟩
  · intro other member
    exact furthest.bound other (List.mem_cons_of_mem _ member)

theorem recovered_sorted (numbered : Numbered number 0 log) {reports : List (Option ChildReport)}
    {published : UInt64} (parts : AllParts log reports) (furthest : Furthest log reports published)
    (next : UInt64) :
    dedupByKey number (sortByKey number
        ((reports.reduceOption.flatMap ChildReport.messages).filter fun message =>
          decide (next ≤ message.sequence) && decide (message.sequence < published))) =
      (log.take published.toNat).drop next.toNat := by
  have window := (numbered.take published.toNat).filter_window next.toNat published.toNat
  have short : (log.take published.toNat).length ≤ published.toNat := by
    rw [List.length_take]
    exact Nat.min_le_left _ _
  rw [Nat.sub_zero, Nat.sub_zero, List.take_of_length_le short] at window
  apply ((numbered.take published.toNat).drop next.toNat).sorted
  intro message
  rw [← window, List.mem_filter, List.mem_filter, mem_recovered parts furthest]
  rfl

theorem backfill_parts (numbered : Numbered number 0 log) (inRange : log.length < 2 ^ 64)
    {producer : ChildReport} {partials : List (Option ChildReport)}
    (parts : AllParts log (some producer :: partials)) :
    ∃ published filled, restartSequenceStart (some producer) partials = some published ∧
      backfillReportFromConsumers producer partials published = some filled ∧
      Furthest log (some producer :: partials) published ∧
      filled.messages = log.take published.toNat ∧
      (filled = producer ∨ filled.checksumTotal = checksum filled.messages) := by
  obtain ⟨published, read, furthest⟩ := restartSequenceStart_parts numbered inRange parts
  obtain ⟨count, written⟩ := parts (some producer) List.mem_cons_self
  obtain ⟨next, readOwn, value, _⟩ := reportNextSequence_part numbered inRange written
  have ahead := furthest.bound (some producer) List.mem_cons_self count written
  have front : producer.messages = log.take count := written.1
  by_cases complete : published ≤ next.getD 0
  · refine ⟨published, producer, read, ?_, furthest, ?_, .inl rfl⟩
    · rw [backfillReportFromConsumers, readOwn, Option.bind_eq_bind, Option.bind_some,
        if_pos complete]
      rfl
    · rw [UInt64.le_iff_toNat_le, value] at complete
      rw [front, Nat.le_antisymm ahead complete]
  · have partialParts : AllParts log partials := fun report member =>
      parts report (List.mem_cons_of_mem _ member)
    have behind : count < published.toNat := by
      rw [UInt64.le_iff_toNat_le, value] at complete
      omega
    have recovered := recovered_sorted numbered partialParts (furthest.others written behind)
      (next.getD 0)
    rw [value] at recovered
    have joined := List.take_append_drop count (log.take published.toNat)
    rw [List.take_take, Nat.min_eq_left ahead, ← front] at joined
    have filled : backfillReportFromConsumers producer partials published = some
        { producer with
          messages := log.take published.toNat
          checksumTotal := checksum (log.take published.toNat) } := by
      rw [backfillReportFromConsumers, readOwn, Option.bind_eq_bind, Option.bind_some,
        if_neg complete]
      dsimp only
      rw [recovered, joined]
      rfl
    exact ⟨published, _, read, filled, furthest, rfl, .inr rfl⟩

/-- The messages that the consumers had written down complete the report of the producer up
to where it starts again. A report that is complete as it is keeps its own checksum. -/
theorem backfill_completes (numbered : Numbered number 0 log) (inRange : log.length < 2 ^ 64)
    {producer : ChildReport} {partials : List (Option ChildReport)}
    (parts : AllParts log (some producer :: partials))
    (summed : producer.checksumTotal = checksum producer.messages) :
    ∃ published filled, restartSequenceStart (some producer) partials = some published ∧
      backfillReportFromConsumers producer partials published = some filled ∧
      Furthest log (some producer :: partials) published ∧
      filled.messages = log.take published.toNat ∧
      filled.checksumTotal = checksum (log.take published.toNat) := by
  obtain ⟨published, filled, read, completed, furthest, front, sum⟩ :=
    backfill_parts numbered inRange parts
  refine ⟨published, filled, read, completed, furthest, front, ?_⟩
  rw [← front]
  rcases sum with same | sum
  · rw [same, summed]
  · exact sum

theorem Furthest.unread {partialProducer : Option ChildReport}
    {partialConsumers : List (Option ChildReport)} {published : UInt64} {count : Nat}
    (furthest : Furthest log (partialProducer :: partialConsumers.map fun _ => none) published)
    (written : WrittenDown log partialProducer count) : published.toNat = count := by
  have ahead := furthest.bound partialProducer List.mem_cons_self count written
  obtain ⟨report, member, reached⟩ := furthest.reached
  rcases List.mem_cons.mp member with same | there
  · subst same
    exact reached.unique written
  · obtain ⟨_, _, nothing⟩ := List.mem_map.mp there
    subst nothing
    have zero := reached.none_zero
    omega

/-- Nothing of the consumers is read, so the producer starts behind what it had written down. -/
theorem restart_unread (numbered : Numbered number 0 log) (inRange : log.length < 2 ^ 64)
    {partialProducer : Option ChildReport} {count : Nat}
    (written : WrittenDown log partialProducer count)
    (partialConsumers : List (Option ChildReport)) :
    ∃ published, restartSequenceStart partialProducer (partialConsumers.map fun _ => none) =
        some published ∧ published.toNat = count ∧
      ∃ filled, backfillPartial partialProducer (partialConsumers.map fun _ => none) published =
        some filled ∧ WrittenDown log filled count := by
  have parts : AllParts log (partialProducer :: partialConsumers.map fun _ => none) := by
    intro report member
    rcases List.mem_cons.mp member with same | there
    · rw [same]
      exact ⟨count, written⟩
    · obtain ⟨_, _, nothing⟩ := List.mem_map.mp there
      rw [← nothing]
      exact ⟨0, rfl, Nat.zero_le _⟩
  obtain ⟨published, read, furthest⟩ := restartSequenceStart_parts numbered inRange parts
  refine ⟨published, read, furthest.unread written, ?_⟩
  cases partialProducer with
  | none => exact ⟨none, rfl, written⟩
  | some report =>
    obtain ⟨start, filled, readToo, completed, _, front, _⟩ :=
      backfill_parts numbered inRange parts
    rw [read] at readToo
    cases Option.some.inj readToo
    rw [furthest.unread written] at front
    exact ⟨some filled, congrArg (Option.map some) completed, front, written.2⟩

theorem merged_all (numbered : Numbered number 0 log) (inRange : log.length < 2 ^ 64)
    {producer : ChildReport} {start : Nat} (published : producer.messages = log)
    (remains : start < log.length) {partials : List (Option ChildReport)}
    {suffixes : List ChildReport} (lengths : suffixes.length = partials.length)
    (parts : AllParts log partials)
    (rest : ∀ suffix ∈ suffixes, suffix.messages = log.drop start) :
    ∃ merged, (partials.zip suffixes).mapM (fun reports =>
        mergeChildReports producer reports.1 reports.2) = some merged ∧
      merged.length = partials.length ∧
      ∀ report ∈ merged, report.messages = log ∧ report.checksumTotal = checksum log := by
  induction partials generalizing suffixes with
  | nil =>
    refine ⟨[], rfl, rfl, ?_⟩
    intro report absent
    cases absent
  | cons partialReport later ih =>
    cases suffixes with
    | nil => cases lengths
    | cons suffix others =>
      obtain ⟨count, written⟩ := parts partialReport List.mem_cons_self
      obtain ⟨first, made, same, summed⟩ := merged_parts numbered inRange written published
        (rest suffix List.mem_cons_self) remains
      obtain ⟨merged, madeAll, long, all⟩ := ih (Nat.succ.inj lengths)
        (fun report member => parts report (List.mem_cons_of_mem partialReport member))
        (fun report member => rest report (List.mem_cons_of_mem suffix member))
      refine ⟨first :: merged, ?_, ?_, ?_⟩
      · rw [List.zip_cons_cons, List.mapM_cons, made, madeAll]
        rfl
      · rw [List.length_cons, List.length_cons, long]
      · intro report member
        rcases List.mem_cons.mp member with here | there
        · rw [here]
          exact ⟨same, summed⟩
        · exact all report there

theorem producerKillAndRestart_parts (numbered : Numbered number 0 log)
    (inRange : log.length < 2 ^ 64) {partialProducer : Option ChildReport}
    {partialConsumers : List (Option ChildReport)} {count : Nat}
    (written : WrittenDown log partialProducer count) (parts : AllParts log partialConsumers)
    (incomplete : count < log.length) (restart : UInt64 → Option (ChildReport × List ChildReport))
    (restarted : ∀ published, published.toNat = count → ∃ producer consumers,
      restart published = some (producer, consumers) ∧ producer.messages = log.drop count ∧
        consumers.length = partialConsumers.length ∧
        ∀ report ∈ consumers, report.messages = log.drop count) :
    ∃ producer consumers, producerKillAndRestart log.length partialProducer partialConsumers
        restart = some (.ok (producer, consumers)) ∧
      producer.messages = log ∧ producer.checksumTotal = checksum log ∧
      consumers.length = partialConsumers.length ∧
      ∀ report ∈ consumers, report.messages = log ∧ report.checksumTotal = checksum log := by
  obtain ⟨published, read, value, filling⟩ :=
    restart_unread numbered inRange written partialConsumers
  obtain ⟨producerSuffix, consumerSuffixes, started, rest, lengths, behind⟩ :=
    restarted published value
  obtain ⟨filled, completed, front⟩ := filling
  have whole := concat_parts numbered front rest
  have summed : (concatChildReports filled producerSuffix).checksumTotal = checksum log :=
    congrArg checksum whole
  obtain ⟨merged, mergedAll, long, all⟩ := merged_all numbered inRange whole incomplete lengths
    parts behind
  refine ⟨concatChildReports filled producerSuffix, merged, ?_, whole, summed, long, all⟩
  rw [producerKillAndRestart]
  dsimp only
  rw [read, Option.bind_eq_bind, Option.bind_some, if_neg (by omega)]
  simp only [completed, started, mergedAll, Option.bind_eq_bind, Option.bind_some]
  rfl

end Parts

def numberedMessage (sequence : UInt64) : OracleMessage :=
  { sequence := sequence, payloadHash := 7 + sequence, payloadLen := 4, timestampNs := sequence }

def partOf (count : Nat) : ChildReport where
  role := .producer
  messages := ([0, 1, 2, 3].map numberedMessage).take count
  checksumTotal := checksum (([0, 1, 2, 3].map numberedMessage).take count)
  backpressureEvents := 0
  attachedAfterMs := 0

/-- The producer had written down one message, and its consumers none, three and two. -/
theorem backfill_completes_three :
    ∃ published filled, restartSequenceStart (some (partOf 1))
        [none, some (partOf 3), some (partOf 2)] = some published ∧
      backfillReportFromConsumers (partOf 1) [none, some (partOf 3), some (partOf 2)] published =
        some filled ∧
      published = 3 ∧ filled.messages = [0, 1, 2].map numberedMessage ∧
      filled.checksumTotal = 24 := by
  have part (count : Nat) (inside : count ≤ 4) :
      WrittenDown ([0, 1, 2, 3].map numberedMessage) (some (partOf count)) count :=
    ⟨rfl, inside⟩
  have parts : AllParts ([0, 1, 2, 3].map numberedMessage)
      [some (partOf 1), none, some (partOf 3), some (partOf 2)] := by
    intro report member
    simp only [List.mem_cons, List.not_mem_nil, or_false] at member
    rcases member with same | same | same | same
    · exact same ▸ ⟨1, part 1 (by decide)⟩
    · exact same ▸ ⟨0, rfl, Nat.zero_le _⟩
    · exact same ▸ ⟨3, part 3 (by decide)⟩
    · exact same ▸ ⟨2, part 2 (by decide)⟩
  obtain ⟨published, filled, read, completed, _furthest, front, summed⟩ :=
    backfill_completes (show Numbered number 0 ([0, 1, 2, 3].map numberedMessage) by decide)
      (by decide) parts rfl
  have start : restartSequenceStart (some (partOf 1))
      [none, some (partOf 3), some (partOf 2)] = some 3 := by decide
  rw [read] at start
  cases Option.some.inj start
  exact ⟨3, filled, read, completed, rfl, front, summed⟩

/-! ### The whole run -/

def producerReport (messages : List OracleMessage) : ChildReport where
  role := .producer
  messages := messages
  checksumTotal := checksum messages
  backpressureEvents := 0
  attachedAfterMs := 0

/-- What the children report that are started again, with what is left to publish. The consumers
find what `polls` tells where these events are published. -/
def restartChildren (settings : ConsumerSettings) (payloadSize : Nat)
    (attachedAfterMs : Nat → UInt64) (polls : List RawRingEvent → List (List Poll))
    (published : UInt64) : Option (ChildReport × List ChildReport) := do
  let remaining := settings.messageCount - published.toNat
  let (events, messages) ← runProducer settings.seed published.toNat remaining payloadSize none
  let reports ← runConsumers { settings with messageCount := remaining } attachedAfterMs 0
    (polls events)
  return (producerReport messages, reports)

/-- Each of so many consumers gets every event that is published, before its time runs out. -/
def Served (settings : ConsumerSettings) (consumers : Nat)
    (polls : List RawRingEvent → List (List Poll)) : Prop :=
  ∀ events, (polls events).length = consumers ∧
    ∀ looks ∈ polls events, delivered looks = ringEvents events ∧ InTime settings none looks

section Run

variable {seed : UInt64} {messageCount payloadSize : Nat}

theorem observations_numbered (seed : UInt64) (payloadSize : Nat) (hit : UInt64 → Bool)
    {start count : Nat}
    (inRange : start + count < 2 ^ 64) :
    Numbered number start (observations seed payloadSize hit (sequenceRange start count)) := by
  induction count generalizing start with
  | zero => exact trivial
  | succ count ih =>
    have later := ih (show start + 1 + count < 2 ^ 64 by omega)
    unfold sequenceRange at later ⊢
    rw [List.range'_succ]
    constructor
    · exact UInt64.toNat_ofNat_of_lt' (Nat.lt_of_le_of_lt (Nat.le_add_right start _) inRange)
    · exact later

theorem observations_drop (seed : UInt64) (payloadSize : Nat) (hit : UInt64 → Bool)
    (count start : Nat) :
    (observations seed payloadSize hit (sequenceRange 0 count)).drop start =
      observations seed payloadSize hit (sequenceRange start (count - start)) := by
  unfold observations sequenceRange
  rw [← List.map_drop, ← List.map_drop, List.drop_range', Nat.mul_one, Nat.zero_add]

theorem inTime_messageCount (settings : ConsumerSettings) (messageCount : Nat)
    (producerDoneAt : Option Nat) (polls : List Poll) :
    InTime { settings with messageCount := messageCount } producerDoneAt polls ↔
      InTime settings producerDoneAt polls := by
  induction polls generalizing producerDoneAt with
  | nil => exact Iff.rfl
  | cons poll later ih =>
    cases poll with
    | event sequence event => exact ih none
    | empty producerCompleted noted elapsed checked =>
      exact and_congr_right fun _ => and_congr_right fun _ => ih _

theorem probed_none : probed none payloadSize = fun _ => false := by
  funext sequence
  apply decide_eq_false
  intro ⟨absurd, _⟩
  cases absurd

theorem runConsumers_served (settings : ConsumerSettings) (attachedAfterMs : Nat → UInt64)
    {sequences : List UInt64} {events : List RawRingEvent}
    (published : List.Forall₂ (EventOf settings.seed payloadSize none) events sequences)
    (inRange : sequences.length < 2 ^ 64) (told : settings.messageCount = sequences.length)
    (index : Nat) {polls : List (List Poll)}
    (served : ∀ looks ∈ polls, delivered looks = ringEvents events ∧ InTime settings none looks) :
    ∃ reports, runConsumers settings attachedAfterMs index polls = some reports ∧
      reports.length = polls.length ∧ ∀ report ∈ reports,
        report.messages = observations settings.seed payloadSize (fun _ => false) sequences := by
  induction polls generalizing index with
  | nil =>
    refine ⟨[], rfl, rfl, ?_⟩
    intro report absent
    cases absent
  | cons looks later ih =>
    obtain ⟨reports, ran, lengths, all⟩ :=
      ih (index + 1) fun other member => served other (List.mem_cons_of_mem looks member)
    obtain ⟨whole, inTime⟩ := served looks List.mem_cons_self
    have consumed := consumeEvents_served
      (seen_nothing settings.seed payloadSize none sequences) published inRange told
      (.inr fun _ _ => congrFun probed_none _) whole inTime
    rw [probed_none] at consumed
    refine ⟨consumerReport index (attachedAfterMs index)
      (observations settings.seed payloadSize (fun _ => false) sequences) :: reports,
      ?_, congrArg Nat.succ lengths, ?_⟩
    · rw [runConsumers, runConsumer, consumed, ran]
      rfl
    · intro report member
      rcases List.mem_cons.mp member with here | there
      · rw [here]
        rfl
      · exact all report there

theorem runProducer_honest (seed : UInt64) (fits : payloadSize ≤ rawEventCapacity)
    {start count : Nat} (inRange : start + count < 2 ^ 64) :
    ∃ events, runProducer seed start count payloadSize none = some (events,
        observations seed payloadSize (fun _ => false) (sequenceRange start count)) ∧
      List.Forall₂ (EventOf seed payloadSize none) events (sequenceRange start count) := by
  rw [runProducer, if_pos inRange]
  exact publishEvents_validated seed none fits (sequenceRange start count)

theorem restartChildren_runs {settings : ConsumerSettings} (attachedAfterMs : Nat → UInt64)
    {consumers : Nat} {polls : List RawRingEvent → List (List Poll)}
    (served : Served settings consumers polls) {published : UInt64}
    (fits : payloadSize ≤ rawEventCapacity) (inRange : settings.messageCount < 2 ^ 64)
    (incomplete : published.toNat < settings.messageCount) :
    ∃ reports, restartChildren settings payloadSize attachedAfterMs polls published = some
        (producerReport (observations settings.seed payloadSize (fun _ => false)
          (sequenceRange published.toNat (settings.messageCount - published.toNat))), reports) ∧
      reports.length = consumers ∧ ∀ report ∈ reports,
        report.messages = observations settings.seed payloadSize (fun _ => false)
          (sequenceRange published.toNat (settings.messageCount - published.toNat)) := by
  obtain ⟨events, made, carried⟩ := runProducer_honest settings.seed fits
    (show published.toNat + (settings.messageCount - published.toNat) < 2 ^ 64 by omega)
  obtain ⟨lengths, all⟩ := served events
  have long := sequenceRange_length published.toNat (settings.messageCount - published.toNat)
  obtain ⟨reports, ran, counted, same⟩ := runConsumers_served
    { settings with messageCount := settings.messageCount - published.toNat }
    attachedAfterMs carried (by omega) long.symm 0 (fun looks member =>
      ⟨(all looks member).1, (inTime_messageCount settings _ none looks).mpr
        (all looks member).2⟩)
  refine ⟨reports, ?_, counted.trans lengths, same⟩
  rw [restartChildren]
  dsimp only
  rw [made, Option.bind_eq_bind, Option.bind_some]
  dsimp only
  rw [ran]
  rfl

/-- The fault is refused where the producer had written down everything, and else the run ends
with every message once in every report, and passes. -/
def RestartRecovers (settings : ConsumerSettings) (payloadSize : Nat)
    (attachedAfterMs : Nat → UInt64) (polls : List RawRingEvent → List (List Poll))
    (log : List OracleMessage) (partialProducer : Option ChildReport)
    (partialConsumers : List (Option ChildReport)) (count : Nat) : Prop :=
  (count = settings.messageCount →
    producerKillAndRestart settings.messageCount partialProducer partialConsumers
        (restartChildren settings payloadSize attachedAfterMs polls) =
      some (.error "producer kill-and-restart fault fired after producer completed")) ∧
  (count < settings.messageCount → ∃ producer consumers,
    producerKillAndRestart settings.messageCount partialProducer partialConsumers
        (restartChildren settings payloadSize attachedAfterMs polls) =
      some (.ok (producer, consumers)) ∧
    producer.messages = log ∧ producer.checksumTotal = checksum log ∧
    consumers.length = partialConsumers.length ∧
    (∀ report ∈ consumers, report.messages = log ∧ report.checksumTotal = checksum log) ∧
    verifyRawRingBroadcast ((MessageOracle.withBroadcastConsumers
      partialConsumers.length).extendPublished producer.messages) consumers =
        some (.ok ()))

theorem restart_recovers (settings : ConsumerSettings) (attachedAfterMs : Nat → UInt64)
    (fits : payloadSize ≤ rawEventCapacity) (inRange : settings.messageCount < 2 ^ 64)
    {partialProducer : Option ChildReport} {partialConsumers : List (Option ChildReport)}
    {count : Nat}
    (written : WrittenDown (observations settings.seed payloadSize (fun _ => false)
      (sequenceRange 0 settings.messageCount)) partialProducer count)
    (parts : AllParts (observations settings.seed payloadSize (fun _ => false)
      (sequenceRange 0 settings.messageCount)) partialConsumers)
    {polls : List RawRingEvent → List (List Poll)}
    (served : Served settings partialConsumers.length polls) :
    RestartRecovers settings payloadSize attachedAfterMs polls
      (observations settings.seed payloadSize (fun _ => false)
        (sequenceRange 0 settings.messageCount))
      partialProducer partialConsumers count := by
  have numbered := observations_numbered settings.seed payloadSize
    (fun _ => false) (show 0 + settings.messageCount < 2 ^ 64 by omega)
  have long : (observations settings.seed payloadSize (fun _ => false)
      (sequenceRange 0 settings.messageCount)).length = settings.messageCount := by
    rw [observations, List.length_map, sequenceRange_length]
  have size : (observations settings.seed payloadSize (fun _ => false)
      (sequenceRange 0 settings.messageCount)).length < 2 ^ 64 := by
    rw [long]
    exact inRange
  obtain ⟨published, read, value, filling⟩ := restart_unread numbered size written partialConsumers
  constructor
  · intro complete
    rw [producerKillAndRestart]
    dsimp only
    rw [read, Option.bind_eq_bind, Option.bind_some, if_pos (by omega)]
    rfl
  · intro incomplete
    have drops := observations_drop settings.seed payloadSize (fun _ => false)
      settings.messageCount count
    obtain ⟨producer, consumers, ran, whole, summed, lengths, all⟩ :=
      producerKillAndRestart_parts numbered size written parts (by omega)
        (restartChildren settings payloadSize attachedAfterMs polls) (by
          intro start same
          obtain ⟨reports, started, counted, behind⟩ := restartChildren_runs attachedAfterMs served
            fits inRange (show start.toNat < settings.messageCount by omega)
          rw [same, ← drops] at started behind
          exact ⟨_, _, started, rfl, counted, behind⟩)
    rw [long] at ran
    refine ⟨producer, consumers, ran, whole, summed, lengths, all, ?_⟩
    obtain ⟨result, verified, passes⟩ := @verifyComplete_known partialConsumers.length
      producer.messages (consumers.map ChildReport.messages)
      (by rw [List.length_map, lengths])
    rw [verifyRawRingBroadcast, verified]
    apply congrArg some
    apply passes.mpr
    intro report member
    obtain ⟨consumer, there, same⟩ := List.mem_map.mp member
    rw [← same, (all consumer there).1, whole]
    exact ⟨rfl, increasing_of_numbered numbered⟩

end Run

def servesTwo (events : List RawRingEvent) : List (List Poll) :=
  [handed events, .empty false 5 5 6 :: handed events]

theorem servesTwo_served : Served patientReader 2 servesTwo := by
  have prompt (polls : List (UInt64 × RawRingEvent)) :
      InTime patientReader none (polls.map fun event => .event event.1 event.2) := by
    induction polls with
    | nil => exact trivial
    | cons event later ih => exact ih
  intro events
  refine ⟨rfl, ?_⟩
  intro looks member
  rcases List.mem_cons.mp member with first | rest
  · rw [first]
    exact ⟨delivered_handed events, prompt _⟩
  · rw [List.mem_singleton.mp rest]
    refine ⟨delivered_handed events, ?_, by decide, prompt _⟩
    intro completed
    cases completed

end Dst
