/-
The report of a consumer that was killed and started again.

What the killed one had written down and what its successor reports are merged into one
report. Where there is a hole between the two, the merge fills it from the report of the
producer, and so the oracle passes messages that nobody received.
-/

import Myelon.Delivery.Numbering
import Myelon.Dst.Oracle

namespace Dst

open Delivery

inductive ProcessRole where
  | producer
  | consumer (index : UInt32)
  | orchestrator
  deriving DecidableEq

structure ChildReport where
  role : ProcessRole
  messages : List OracleMessage
  checksumTotal : UInt64
  backpressureEvents : UInt64
  attachedAfterMs : UInt64
  deriving DecidableEq

/-- Adding past the range panics. -/
def following (sequence : UInt64) : Option UInt64 :=
  if sequence.toNat + 1 < 2 ^ 64 then some (sequence + 1) else none

def firstSuffixSeq (producer suffix : ChildReport) : UInt64 :=
  match suffix.messages.head? with
  | some message => message.sequence
  | none => UInt64.ofNat producer.messages.length

def gapStart (before : List OracleMessage) : Option UInt64 :=
  match before.getLast? with
  | some message => following message.sequence
  | none => some 0

/-- The part of the producer's report that the merge copies. -/
def gapFill (producer : ChildReport) (start stop : UInt64) : List OracleMessage :=
  if start < stop then
    producer.messages.filter
      (fun message => decide (start ≤ message.sequence) && decide (message.sequence < stop))
  else []

def beyond (cutoff : Option UInt64) (message : OracleMessage) : Bool :=
  match cutoff with
  | some last => decide (last < message.sequence)
  | none => true

def withoutOverlap (before suffix : List OracleMessage) : List OracleMessage :=
  before ++ suffix.filter (beyond (before.getLast?.map OracleMessage.sequence))

def checksum (messages : List OracleMessage) : UInt64 :=
  messages.foldl (fun sum message => sum + message.payloadHash) 0

def emptyReport (suffix : ChildReport) : ChildReport :=
  { suffix with messages := [], checksumTotal := 0, backpressureEvents := 0 }

def mergeChildReports (producer : ChildReport) (prefixReport : Option ChildReport)
    (suffix : ChildReport) : Option ChildReport := do
  let merged := prefixReport.getD (emptyReport suffix)
  let start ← gapStart merged.messages
  let messages := withoutOverlap
    (merged.messages ++ gapFill producer start (firstSuffixSeq producer suffix)) suffix.messages
  return {
    role := merged.role
    messages := messages
    checksumTotal := checksum messages
    backpressureEvents := merged.backpressureEvents + suffix.backpressureEvents
    attachedAfterMs := min merged.attachedAfterMs suffix.attachedAfterMs }

/-! ### Runs that pass -/

def prefixMessages (prefixReport : Option ChildReport) : List OracleMessage :=
  (prefixReport.map ChildReport.messages).getD []

/-- The merge succeeds and the merged report passes the oracle of the producer's report. -/
def Accepted (producer : ChildReport) (prefixReport : Option ChildReport)
    (suffix : ChildReport) (consumers consumerId : Nat) : Prop :=
  ∃ merged, mergeChildReports producer prefixReport suffix = some merged ∧
    ((MessageOracle.withBroadcastConsumers consumers).extendPublished
      producer.messages).verifyConsumerMessages consumerId merged.messages = some (.ok ())

/-- One of the two incarnations reported a message with this number, hash and length. -/
def Observed (prefixReport : Option ChildReport) (suffix : ChildReport)
    (message : OracleMessage) : Prop :=
  record message ∈ (prefixMessages prefixReport ++ suffix.messages).map record

instance (prefixReport : Option ChildReport) (suffix : ChildReport) (message : OracleMessage) :
    Decidable (Observed prefixReport suffix message) :=
  inferInstanceAs (Decidable (_ ∈ _))

/-- A published message in the hole between the two reports is in neither of them, and
outside of the hole both reports are what was published there. -/
structure LosesUnnoticed (producer : ChildReport) (prefixReport : Option ChildReport)
    (suffix : ChildReport) (start : UInt64) : Prop where
  hole : gapStart (prefixMessages prefixReport) = some start
  lost : ∃ message ∈ producer.messages, start ≤ message.sequence ∧
    message.sequence < firstSuffixSeq producer suffix ∧
      ¬ Observed prefixReport suffix message
  front : (prefixMessages prefixReport).map record =
    (producer.messages.take start.toNat).map record
  back : (suffix.messages.filter
      (fun message => decide (firstSuffixSeq producer suffix ≤ message.sequence))).map record =
    (producer.messages.drop (firstSuffixSeq producer suffix).toNat).map record

/-! ### What the merge makes of a numbered report -/

def number (message : OracleMessage) : Nat := message.sequence.toNat

theorem gapFill_eq {producer : ChildReport} (start stop : UInt64)
    (numbered : Numbered number 0 producer.messages) :
    gapFill producer start stop = (producer.messages.take stop.toNat).drop start.toNat := by
  have window := numbered.filter_window start.toNat stop.toNat
  rw [Nat.sub_zero, Nat.sub_zero] at window
  unfold gapFill
  by_cases hole : start < stop
  · rw [if_pos hole, ← window]
    rfl
  · rw [if_neg hole]
    symm
    apply List.drop_eq_nil_of_le
    have none : stop.toNat ≤ start.toNat := UInt64.le_iff_toNat_le.mp (UInt64.not_lt.mp hole)
    rw [List.length_take]
    omega

section Hole

variable {producer suffix : ChildReport} {before : List OracleMessage} {start stop : UInt64}

theorem gapFill_length (numbered : Numbered number 0 producer.messages) :
    (gapFill producer start stop).length =
      min stop.toNat producer.messages.length - start.toNat := by
  rw [gapFill_eq start stop numbered, List.length_drop, List.length_take]

theorem gapFill_head (numbered : Numbered number 0 producer.messages)
    (hole : start.toNat < min stop.toNat producer.messages.length) :
    ∃ message, (gapFill producer start stop).head? = some message ∧
      number message = start.toNat := by
  have inside : start.toNat < producer.messages.length := by omega
  have found := List.getElem?_eq_getElem inside
  refine ⟨producer.messages[start.toNat], ?_, ?_⟩
  · rw [gapFill_eq start stop numbered, List.head?_drop, List.getElem?_take_of_lt (by omega)]
    exact found
  · rw [numbered.getElem? found, Nat.zero_add]

theorem last_filled (before : List OracleMessage)
    (numbered : Numbered number 0 producer.messages)
    (hole : start.toNat < min stop.toNat producer.messages.length) :
    ∃ last, (before ++ gapFill producer start stop).getLast? = some last ∧
      number last + 1 = min stop.toNat producer.messages.length := by
  have inside : min stop.toNat producer.messages.length - 1 < producer.messages.length := by omega
  have found := List.getElem?_eq_getElem inside
  refine ⟨producer.messages[min stop.toNat producer.messages.length - 1], ?_, ?_⟩
  · have filled : (gapFill producer start stop).getLast? =
        some producer.messages[min stop.toNat producer.messages.length - 1] := by
      rw [List.getLast?_eq_getElem?, gapFill_length numbered,
        gapFill_eq start stop numbered, List.getElem?_drop, List.getElem?_take_of_lt (by omega),
        ← found]
      congr 1
      omega
    rw [List.getLast?_append, filled]
    rfl
  · rw [numbered.getElem? found]
    omega

theorem withoutOverlap_filled (before suffix : List OracleMessage)
    (numbered : Numbered number 0 producer.messages)
    (hole : start.toNat < min stop.toNat producer.messages.length) :
    withoutOverlap (before ++ gapFill producer start stop) suffix =
      before ++ gapFill producer start stop ++ suffix.filter (fun message =>
        decide (min stop.toNat producer.messages.length ≤ number message)) := by
  obtain ⟨last, final, counted⟩ := last_filled before numbered hole
  rw [withoutOverlap, final]
  congr 1
  apply List.filter_congr
  intro message _
  rw [Option.map_some, beyond, decide_eq_decide, UInt64.lt_iff_toNat_lt, ← counted]
  exact Nat.lt_iff_add_one_le

theorem firstSuffixSeq_le {bound : Nat}
    (reach : min (firstSuffixSeq producer suffix).toNat producer.messages.length ≤ bound)
    (low : bound ≤ (firstSuffixSeq producer suffix).toNat)
    (back : (suffix.messages.filter (fun message => decide (bound ≤ number message))).map
      record = (producer.messages.drop bound).map record) :
    (firstSuffixSeq producer suffix).toNat ≤ producer.messages.length := by
  by_contra late
  have beyond : producer.messages.length ≤ bound := by omega
  rw [List.drop_eq_nil_of_le beyond, List.map_nil, List.map_eq_nil_iff,
    List.filter_eq_nil_iff] at back
  cases first : suffix.messages.head? with
  | none =>
    rw [firstSuffixSeq, first] at late
    have small : (UInt64.ofNat producer.messages.length).toNat ≤ producer.messages.length := by
      rw [UInt64.toNat_ofNat']
      exact Nat.mod_le _ _
    exact late small
  | some message =>
    rw [firstSuffixSeq, first] at low
    exact back message (List.mem_of_head? first) (decide_eq_true low)

end Hole

/-! ### What the oracle lets pass -/

theorem increasing_of_numbered {start : Nat} {messages : List OracleMessage}
    (numbered : Numbered number start messages) : Increasing messages := by
  unfold Increasing
  induction messages generalizing start with
  | nil => exact List.isChain_nil
  | cons first later ih =>
    obtain ⟨counted, rest⟩ := numbered
    cases later with
    | nil => exact List.isChain_singleton _
    | cons second later =>
      apply List.isChain_cons_cons.mpr
      constructor
      · rw [UInt64.lt_iff_toNat_lt]
        have next := rest.1
        unfold number at counted next
        omega
      · exact ih rest

theorem Increasing.of_same_records {messages others : List OracleMessage}
    (increasing : Increasing others) (same : messages.map record = others.map record) :
    Increasing messages := by
  have numbers : messages.map OracleMessage.sequence = others.map OracleMessage.sequence := by
    have firsts := congrArg (List.map Prod.fst) same
    rw [List.map_map, List.map_map] at firsts
    exact firsts
  unfold Increasing
  rw [numbers]
  exact increasing

section Oracle

variable {producer suffix : ChildReport} {prefixReport : Option ChildReport}
  {consumers consumerId : Nat}

theorem prefixMessages_eq (prefixReport : Option ChildReport) (suffix : ChildReport) :
    (prefixReport.getD (emptyReport suffix)).messages = prefixMessages prefixReport := by
  cases prefixReport with
  | none => rfl
  | some report => rfl

theorem mergeChildReports_messages (producer : ChildReport) (prefixReport : Option ChildReport)
    (suffix : ChildReport) :
    (mergeChildReports producer prefixReport suffix).map ChildReport.messages =
      (gapStart (prefixMessages prefixReport)).map (fun start =>
        withoutOverlap (prefixMessages prefixReport ++
          gapFill producer start (firstSuffixSeq producer suffix)) suffix.messages) := by
  rw [← prefixMessages_eq prefixReport suffix]
  unfold mergeChildReports
  dsimp only
  cases gapStart (prefixReport.getD (emptyReport suffix)).messages with
  | none => rfl
  | some start => rfl

theorem accepted_iff (numbered : Numbered number 0 producer.messages)
    (known : consumerId < consumers) :
    Accepted producer prefixReport suffix consumers consumerId ↔
      ∃ start, gapStart (prefixMessages prefixReport) = some start ∧
        (withoutOverlap (prefixMessages prefixReport ++
          gapFill producer start (firstSuffixSeq producer suffix)) suffix.messages).map record =
          producer.messages.map record := by
  have merges := mergeChildReports_messages producer prefixReport suffix
  constructor
  · intro ⟨merged, made, passes⟩
    rw [made, Option.map_some] at merges
    obtain ⟨start, hole, same⟩ := Option.map_eq_some_iff.mp merges.symm
    have listed := ((verifyConsumerMessages_broadcast _ _ known).mp passes).1
    rw [← same] at listed
    exact ⟨start, hole, listed⟩
  · intro ⟨start, hole, listed⟩
    rw [hole, Option.map_some] at merges
    obtain ⟨merged, made, same⟩ := Option.map_eq_some_iff.mp merges
    rw [← same] at listed
    have increasing := (increasing_of_numbered numbered).of_same_records listed
    exact ⟨merged, made, (verifyConsumerMessages_broadcast _ _ known).mpr ⟨listed, increasing⟩⟩

/-- A published message that was in neither report was copied into the hole. -/
theorem lost_in_hole {start : UInt64} {message : OracleMessage}
    (passes : (withoutOverlap (prefixMessages prefixReport ++
      gapFill producer start (firstSuffixSeq producer suffix)) suffix.messages).map record =
      producer.messages.map record)
    (published : message ∈ producer.messages) (unseen : ¬ Observed prefixReport suffix message) :
    start ≤ message.sequence ∧ message.sequence < firstSuffixSeq producer suffix := by
  have merged := List.mem_map_of_mem (f := record) published
  rw [← passes, withoutOverlap, List.map_append, List.map_append, List.mem_append,
    List.mem_append] at merged
  unfold Observed at unseen
  rw [List.map_append, List.mem_append, not_or] at unseen
  rcases merged with (seen | filled) | seen
  · exact absurd seen unseen.1
  · obtain ⟨copy, member, same⟩ := List.mem_map.mp filled
    have number : copy.sequence = message.sequence := congrArg Prod.fst same
    unfold gapFill at member
    by_cases hole : start < firstSuffixSeq producer suffix
    · rw [if_pos hole, List.mem_filter, Bool.and_eq_true, decide_eq_true_eq,
        decide_eq_true_eq, number] at member
      exact member.2
    · rw [if_neg hole] at member
      cases member
  · obtain ⟨copy, member, same⟩ := List.mem_map.mp seen
    exact absurd (List.mem_map.mpr ⟨copy, List.mem_of_mem_filter member, same⟩) unseen.2

/-- With a hole to fill, the merged report is the published list exactly where the prefix
is what was published before the hole, and the suffix what was published behind it. -/
theorem passes_iff_outside {start : UInt64} (numbered : Numbered number 0 producer.messages)
    (hole : start.toNat <
      min (firstSuffixSeq producer suffix).toNat producer.messages.length) :
    (withoutOverlap (prefixMessages prefixReport ++
      gapFill producer start (firstSuffixSeq producer suffix)) suffix.messages).map record =
      producer.messages.map record ↔
    (prefixMessages prefixReport).map record =
        (producer.messages.take start.toNat).map record ∧
      (suffix.messages.filter (fun message => decide
        (min (firstSuffixSeq producer suffix).toNat producer.messages.length ≤
          number message))).map record =
        (producer.messages.drop
          (min (firstSuffixSeq producer suffix).toNat producer.messages.length)).map record := by
  have pieces : producer.messages =
      producer.messages.take start.toNat ++
        gapFill producer start (firstSuffixSeq producer suffix) ++
        producer.messages.drop
          (min (firstSuffixSeq producer suffix).toNat producer.messages.length) := by
    have filled : gapFill producer start (firstSuffixSeq producer suffix) =
        (producer.messages.take
          (min (firstSuffixSeq producer suffix).toNat producer.messages.length)).drop
            start.toNat := by
      rw [gapFill_eq start _ numbered]
      congr 1
      rw [List.take_eq_take_iff]
      omega
    have front : producer.messages.take start.toNat =
        (producer.messages.take
          (min (firstSuffixSeq producer suffix).toNat producer.messages.length)).take
            start.toNat := by
      rw [List.take_take, min_eq_left hole.le]
    rw [filled, front, List.take_append_drop, List.take_append_drop]
  rw [withoutOverlap_filled _ _ numbered hole]
  constructor
  · intro passes
    -- the first message of the hole tells how long the prefix is
    obtain ⟨first, head, counted⟩ := gapFill_head numbered hole
    have reached : (prefixMessages prefixReport).length = start.toNat := by
      have there := congrArg (fun records => records[(prefixMessages prefixReport).length]?)
        passes
      rw [List.append_assoc, List.getElem?_map, List.getElem?_append_right le_rfl, Nat.sub_self,
        ← List.head?_eq_getElem?, List.head?_append, head, List.getElem?_map] at there
      obtain ⟨message, found, same⟩ := Option.map_eq_some_iff.mp there.symm
      have position := numbered.getElem? found
      have equal : message.sequence = first.sequence := congrArg Prod.fst same
      unfold number at position counted
      rw [equal] at position
      omega
    have front : ((prefixMessages prefixReport).map record).length =
        ((producer.messages.take start.toNat).map record).length := by
      rw [List.length_map, List.length_map, List.length_take]
      omega
    have records := passes.trans (congrArg (List.map record) pieces)
    rw [List.map_append, List.map_append, List.map_append, List.map_append] at records
    have parts := List.append_inj records (by rw [List.length_append, List.length_append, front])
    exact ⟨(List.append_inj parts.1 front).1, parts.2⟩
  · rintro ⟨front, back⟩
    rw [List.map_append, List.map_append, front, back, ← List.map_append, ← List.map_append,
      ← pieces]

theorem accepted_of_losesUnnoticed {start : UInt64}
    (numbered : Numbered number 0 producer.messages) (known : consumerId < consumers)
    (loses : LosesUnnoticed producer prefixReport suffix start) :
    Accepted producer prefixReport suffix consumers consumerId := by
  obtain ⟨message, published, after, before, _⟩ := loses.lost
  rw [UInt64.le_iff_toNat_le] at after
  rw [UInt64.lt_iff_toNat_lt] at before
  have inside : message.sequence.toNat < 0 + producer.messages.length :=
    (numbered.le_of_mem published).2
  have hole : start.toNat <
      min (firstSuffixSeq producer suffix).toNat producer.messages.length := by omega
  have within : (firstSuffixSeq producer suffix).toNat ≤ producer.messages.length :=
    firstSuffixSeq_le (min_le_left _ _) le_rfl loses.back
  apply (accepted_iff numbered known).mpr
  refine ⟨start, loses.hole, (passes_iff_outside numbered hole).mpr ⟨loses.front, ?_⟩⟩
  rw [min_eq_left within, ← loses.back]
  rfl

theorem losesUnnoticed_of_accepted {message : OracleMessage}
    (numbered : Numbered number 0 producer.messages) (known : consumerId < consumers)
    (accepted : Accepted producer prefixReport suffix consumers consumerId)
    (published : message ∈ producer.messages) (unseen : ¬ Observed prefixReport suffix message) :
    ∃ start, LosesUnnoticed producer prefixReport suffix start := by
  obtain ⟨start, at', passes⟩ := (accepted_iff numbered known).mp accepted
  have lost := lost_in_hole passes published unseen
  have after := UInt64.le_iff_toNat_le.mp lost.1
  have before := UInt64.lt_iff_toNat_lt.mp lost.2
  have inside : message.sequence.toNat < 0 + producer.messages.length :=
    (numbered.le_of_mem published).2
  have hole : start.toNat <
      min (firstSuffixSeq producer suffix).toNat producer.messages.length := by omega
  have outside := (passes_iff_outside numbered hole).mp passes
  have within := firstSuffixSeq_le le_rfl (min_le_left _ _) outside.2
  have back := outside.2
  rw [min_eq_left within] at back
  exact ⟨start, at', ⟨message, published, lost.1, lost.2, unseen⟩, outside.1, back⟩

/-- A run that passes was observed in full unless a message is lost in the hole between
the two reports and both reports are right outside of it. -/
theorem accepted_observed_iff (producer : ChildReport) (prefixReport : Option ChildReport)
    (suffix : ChildReport) (consumers consumerId : Nat)
    (numbered : Numbered number 0 producer.messages) (known : consumerId < consumers) :
    (Accepted producer prefixReport suffix consumers consumerId →
      ∀ message ∈ producer.messages, Observed prefixReport suffix message) ↔
    ¬ ∃ start, LosesUnnoticed producer prefixReport suffix start := by
  constructor
  · rintro sound ⟨start, loses⟩
    obtain ⟨message, published, _, _, unseen⟩ := loses.lost
    have accepted := accepted_of_losesUnnoticed numbered known loses
    exact unseen (sound accepted message published)
  · intro noLoss accepted message published
    by_contra unseen
    exact noLoss (losesUnnoticed_of_accepted numbered known accepted published unseen)

/-! ### Three of four messages -/

private def sample (sequence : UInt64) : OracleMessage :=
  { sequence := sequence, payloadHash := sequence + 1, payloadLen := 16, timestampNs := sequence }

private def sampleReport (sequences : List UInt64) : ChildReport :=
  { role := .consumer 0, messages := sequences.map sample, checksumTotal := 0,
    backpressureEvents := 0, attachedAfterMs := 0 }

/-- The first incarnation reports message 0 and the second one message 3. -/
theorem accepted_with_hole :
    ¬ (Accepted (sampleReport [0, 1, 2, 3]) (some (sampleReport [0])) (sampleReport [3]) 1 0 →
      ∀ message ∈ (sampleReport [0, 1, 2, 3]).messages,
        Observed (some (sampleReport [0])) (sampleReport [3]) message) := by
  intro sound
  have accepted : Accepted (sampleReport [0, 1, 2, 3]) (some (sampleReport [0]))
      (sampleReport [3]) 1 0 := ⟨_, rfl, by decide⟩
  have observed := sound accepted (sample 1) (by decide)
  revert observed
  decide

/-- With overlapping reports nothing is lost. -/
theorem accepted_with_overlap :
    Observed (some (sampleReport [0, 1])) (sampleReport [1, 2, 3]) (sample 2) :=
  (accepted_observed_iff (sampleReport [0, 1, 2, 3]) (some (sampleReport [0, 1]))
    (sampleReport [1, 2, 3]) 1 0 (by decide) (by decide)).mpr
    (fun ⟨start, loses⟩ => by
      obtain ⟨message, _, after, before, _⟩ := loses.lost
      cases loses.hole
      exact absurd (UInt64.lt_of_le_of_lt after before) (by decide))
    ⟨_, rfl, by decide⟩ (sample 2) (by decide)

end Oracle

end Dst
