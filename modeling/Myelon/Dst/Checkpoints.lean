/-
What is left of a child that is killed.

A child writes its report down after so many messages, each time into the same file, which is
emptied first. Killed in the middle of that it leaves a part of a report, which cannot be read;
killed between two messages it leaves the last report. Either is where the run can go on from.
-/

import Myelon.Dst.Buggify
import Myelon.Dst.Recovery
import Myelon.Formats.Format

namespace Dst

open Delivery Formats

/-! ### The file -/

inductive FileStep where
  | truncate
  | append (byte : UInt8)

def FileStep.perform (held : Option (List UInt8)) : FileStep → Option (List UInt8)
  | .truncate => some []
  | .append byte => some (held.getD [] ++ [byte])

def fsWrite (contents : List UInt8) : List FileStep := .truncate :: contents.map .append

def contentsAfter (steps : List FileStep) (held : Option (List UInt8)) : Option (List UInt8) :=
  steps.foldl FileStep.perform held

theorem contentsAfter_append (first second : List FileStep) (held : Option (List UInt8)) :
    contentsAfter (first ++ second) held = contentsAfter second (contentsAfter first held) :=
  List.foldl_append

theorem contentsAfter_appends (bytes there : List UInt8) :
    contentsAfter (bytes.map .append) (some there) = some (there ++ bytes) := by
  induction bytes generalizing there with
  | nil => rw [List.append_nil]; rfl
  | cons byte rest ih =>
    have further := ih (there ++ [byte])
    rw [List.append_assoc] at further
    exact further

theorem contentsAfter_fsWrite (contents : List UInt8) (held : Option (List UInt8)) :
    contentsAfter (fsWrite contents) held = some contents :=
  contentsAfter_appends contents []

/-- The file is emptied before anything is written. -/
theorem contentsAfter_torn (contents : List UInt8) (held : Option (List UInt8)) (kill : Nat) :
    contentsAfter ((fsWrite contents).take kill) held =
      if kill = 0 then held else some (contents.take (kill - 1)) := by
  cases kill with
  | zero => rfl
  | succ kill =>
    rw [fsWrite, List.take_succ_cons, ← List.map_take]
    exact contentsAfter_appends (contents.take kill) []

/-! ### Checkpoints -/

def CHECKPOINT_EVERY : String := "MYELON_DST_CHECKPOINT_EVERY"

/-- A text that is no number panics. -/
def checkpointEvery (environment : Environment) : Option (Option UInt64) :=
  match environment.var CHECKPOINT_EVERY with
  | some raw => (parseU64 raw).map fun every => if every = 0 then none else some every
  | none => some (some 1)

theorem checkpointEvery_ne_zero {environment : Environment} {every : UInt64}
    (configured : checkpointEvery environment = some (some every)) : every ≠ 0 := by
  rw [checkpointEvery] at configured
  cases held : environment.var CHECKPOINT_EVERY with
  | none =>
    rw [held] at configured
    cases configured
    decide
  | some raw =>
    rw [held] at configured
    obtain ⟨number, _, chosen⟩ := Option.map_eq_some_iff.mp configured
    split at chosen
    · cases chosen
    · rename_i positive
      rw [← Option.some.inj chosen]
      exact positive

/-- A report and its text, of which no part but the whole can be read. -/
structure Json (encode : ChildReport → List UInt8) (decode : List UInt8 → Option ChildReport) :
    Prop where
  roundTrip : ∀ report, decode (encode report) = some report
  torn : ∀ report kill, kill < (encode report).length → decode ((encode report).take kill) = none

section Recording

variable (encode : ChildReport → List UInt8) (every : Option UInt64)
variable (report : List OracleMessage → ChildReport)

def writeCheckpoint (report : ChildReport) : List FileStep := fsWrite (encode report)

def maybeWriteCheckpoint (report : ChildReport) (eventCount : Nat) : List FileStep :=
  match every with
  | none => []
  | some every =>
    if eventCount % every.toNat = 0 then writeCheckpoint encode report else []

def checkpoints : (done : List OracleMessage) → List OracleMessage → List FileStep
  | _, [] => []
  | done, message :: later =>
    maybeWriteCheckpoint encode every (report (done ++ [message])) (done.length + 1) ++
      checkpoints (done ++ [message]) later

def recording (log : List OracleMessage) : List FileStep :=
  checkpoints encode every report [] log ++ writeCheckpoint encode (report log)

variable (decode : List UInt8 → Option ChildReport)

/-- What is read of a child that is killed after so many steps. -/
def killedChild (log : List OracleMessage) (kill : Nat) : Option ChildReport :=
  (contentsAfter ((recording encode every report log).take kill) none).bind decode

end Recording

/-! ### What can be read -/

section Reading

variable {encode : ChildReport → List UInt8} {decode : List UInt8 → Option ChildReport}
variable {every : Option UInt64} {report : List OracleMessage → ChildReport}
variable {log : List OracleMessage}

/-- The file has a report of the first messages in it, or nothing that can be read. -/
def Readable (decode : List UInt8 → Option ChildReport)
    (report : List OracleMessage → ChildReport) (log : List OracleMessage)
    (held : Option (List UInt8)) : Prop :=
  held.bind decode = none ∨
    ∃ count, count ≤ log.length ∧ held.bind decode = some (report (log.take count))

theorem Readable.write (json : Json encode decode) {held : Option (List UInt8)} {count : Nat}
    (readable : Readable decode report log held) (inside : count ≤ log.length) (kill : Nat) :
    Readable decode report log
      (contentsAfter ((writeCheckpoint encode (report (log.take count))).take kill) held) := by
  rw [writeCheckpoint, contentsAfter_torn]
  by_cases untouched : kill = 0
  · rw [if_pos untouched]
    exact readable
  · rw [if_neg untouched]
    by_cases torn : kill - 1 < (encode (report (log.take count))).length
    · exact .inl (json.torn _ _ torn)
    · right
      rw [List.take_of_length_le (Nat.le_of_not_lt torn)]
      exact ⟨count, inside, json.roundTrip _⟩

theorem Readable.checkpoint (json : Json encode decode) {held : Option (List UInt8)}
    (readable : Readable decode report log held) (every : Option UInt64) {count : Nat}
    (inside : count ≤ log.length) (eventCount kill : Nat) :
    Readable decode report log (contentsAfter
      ((maybeWriteCheckpoint encode every (report (log.take count)) eventCount).take kill)
      held) := by
  cases every with
  | none =>
    rw [maybeWriteCheckpoint, List.take_nil]
    exact readable
  | some every =>
    rw [maybeWriteCheckpoint]
    split
    · exact readable.write json inside kill
    · rw [List.take_nil]
      exact readable

theorem Readable.checkpoints (json : Json encode decode) {held : Option (List UInt8)}
    {done later : List OracleMessage} (readable : Readable decode report (done ++ later) held)
    (every : Option UInt64) (kill : Nat) :
    Readable decode report (done ++ later)
      (contentsAfter ((Dst.checkpoints encode every report done later).take kill) held) := by
  induction later generalizing done held kill with
  | nil =>
    rw [Dst.checkpoints, List.take_nil]
    exact readable
  | cons message later ih =>
    have whole : done ++ message :: later = (done ++ [message]) ++ later := by
      rw [List.append_assoc, List.singleton_append]
    rw [whole] at readable ⊢
    have reached : ((done ++ [message]) ++ later).take (done.length + 1) = done ++ [message] := by
      apply List.take_left'
      rw [List.length_append, List.length_singleton]
    have inside : done.length + 1 ≤ ((done ++ [message]) ++ later).length := by
      simp only [List.length_append, List.length_singleton]
      omega
    have first := readable.checkpoint json every inside (done.length + 1) kill
    rw [reached] at first
    rw [Dst.checkpoints, List.take_append, contentsAfter_append]
    exact ih first _

theorem killedChild_written (json : Json encode decode)
    (messages : ∀ done, (report done).messages = done) (kill : Nat) :
    ∃ count, WrittenDown log (killedChild encode every report decode log kill) count := by
  have fresh : Readable decode report ([] ++ log) none := .inl rfl
  have read := fresh.checkpoints json every kill
  rw [List.nil_append] at read
  have all := read.write json (Nat.le_refl _)
    (kill - (checkpoints encode every report [] log).length)
  rw [List.take_length, ← contentsAfter_append, ← List.take_append] at all
  rcases all with nothing | ⟨count, inside, found⟩
  · refine ⟨0, ?_, Nat.zero_le _⟩
    rw [killedChild, recording, nothing]
    rfl
  · refine ⟨count, ?_, inside⟩
    rw [killedChild, recording, found]
    exact messages _

/-! ### Between two messages -/

theorem checkpoints_snoc (every : Option UInt64) (report : List OracleMessage → ChildReport)
    (done later : List OracleMessage) (message : OracleMessage) :
    checkpoints encode every report done (later ++ [message]) =
      checkpoints encode every report done later ++ maybeWriteCheckpoint encode every
        (report (done ++ later ++ [message])) (done.length + later.length + 1) := by
  induction later generalizing done with
  | nil =>
    rw [List.nil_append, checkpoints, checkpoints, checkpoints, List.append_nil,
      List.append_nil, List.nil_append, List.length_nil, Nat.add_zero]
  | cons first later ih =>
    have further := ih (done ++ [first])
    rw [List.cons_append, checkpoints, checkpoints, further, List.append_assoc (maybeWriteCheckpoint
      encode every _ _), List.append_assoc done, List.singleton_append, List.length_append,
      List.length_singleton, List.length_cons, Nat.add_assoc done.length 1, Nat.add_comm 1]

theorem mod_succ {count interval : Nat} (positive : 0 < interval)
    (later : ¬ (count + 1) % interval = 0) :
    (count + 1) % interval = count % interval + 1 := by
  have split := Nat.div_add_mod count interval
  have low := Nat.mod_lt count positive
  have within : count % interval + 1 < interval := by
    by_contra beyond
    apply later
    have whole : count + 1 = interval * (count / interval + 1) := by
      rw [Nat.mul_succ]
      omega
    rw [whole]
    exact Nat.mul_mod_right _ _
  have parts : count + 1 = interval * (count / interval) + (count % interval + 1) := by omega
  rw [parts, Nat.mul_add_mod, Nat.mod_eq_of_lt within]

/-- What a child has written that is killed behind so many messages, not in a checkpoint. -/
theorem checkpoints_between (json : Json encode decode) (every : UInt64) (some : every ≠ 0)
    {count : Nat} (inside : count ≤ log.length) :
    (contentsAfter (checkpoints encode (.some every) report [] (log.take count)) none).bind
        decode =
      if count < every.toNat then none
      else .some (report (log.take (count - count % every.toNat))) := by
  have positive : 0 < every.toNat := Nat.pos_of_ne_zero fun zero =>
    some (UInt64.toNat_inj.mp zero)
  induction count with
  | zero =>
    rw [List.take_zero, checkpoints, if_pos positive]
    rfl
  | succ count ih =>
    have before := ih (Nat.le_of_succ_le inside)
    have step : log.take (count + 1) = log.take count ++ [log[count]] :=
      List.take_succ_eq_append_getElem inside
    have length : (log.take count).length = count := by
      rw [List.length_take]
      omega
    rw [step, checkpoints_snoc, contentsAfter_append, maybeWriteCheckpoint, List.nil_append,
      List.length_nil, Nat.zero_add, length, ← step]
    by_cases due : (count + 1) % every.toNat = 0
    · have reached : ¬ count + 1 < every.toNat := by
        intro low
        rw [Nat.mod_eq_of_lt low] at due
        cases due
      rw [if_pos due, if_neg reached, due, Nat.sub_zero, writeCheckpoint, contentsAfter_fsWrite]
      exact json.roundTrip _
    · have further := mod_succ positive due
      have same : (count + 1 < every.toNat) = (count < every.toNat) := by
        apply propext
        constructor
        · omega
        · intro low
          rw [Nat.mod_eq_of_lt low] at further
          have bounded := Nat.mod_lt (count + 1) positive
          omega
      rw [if_neg due, further, Nat.add_sub_add_right]
      simp only [same]
      exact before

end Reading

/-! ### The run -/

theorem producerReport_messages (log : List OracleMessage) :
    (producerReport log).messages = log := rfl

theorem consumerReport_messages (index : Nat) (attachedAfterMs : UInt64)
    (log : List OracleMessage) : (consumerReport index attachedAfterMs log).messages = log := rfl

def u64 : Format NoDigit UInt64 :=
  numeral.convert (fun value => if value < 2 ^ 64 then some (UInt64.ofNat value) else none)
    UInt64.toNat (fun word => by rw [if_pos word.toNat_lt, UInt64.ofNat_toNat])
    fun value word same => by
      rw [Option.ite_none_right_eq_some, Option.some.injEq] at same
      rw [← same.2, UInt64.toNat_ofNat_of_lt' same.1]

def u32 : Format NoDigit UInt32 :=
  numeral.convert (fun value => if value < 2 ^ 32 then some (UInt32.ofNat value) else none)
    UInt32.toNat (fun word => by rw [if_pos word.toNat_lt, UInt32.ofNat_toNat])
    fun value word same => by
      rw [Option.ite_none_right_eq_some, Option.some.injEq] at same
      rw [← same.2, UInt32.toNat_ofNat_of_lt' same.1]

theorem noDigit_comma (rest : Text) : NoDigit (44 :: rest) := by
  intro byte first
  cases first
  rfl

theorem noDigit_brace (rest : Text) : NoDigit (125 :: rest) := by
  intro byte first
  cases first
  rfl

def roleFormat : Closed ProcessRole :=
  ((constant (ascii "\"Producer\"")).either
    ((constant (ascii "\"Orchestrator\"")).either
      ((u32.after (ascii "\x7b\"Consumer\":\x7b\"index\":")).before (ascii "\x7d\x7d")
        fun _ => noDigit_brace _)
      fun _ _ => rfl)
    fun other _ => by cases other <;> rfl).convert
    (fun
      | .inl () => some .producer
      | .inr (.inl ()) => some .orchestrator
      | .inr (.inr index) => some (.consumer index))
    (fun
      | .producer => .inl ()
      | .orchestrator => .inr (.inl ())
      | .consumer index => .inr (.inr index))
    (fun role => by cases role <;> rfl)
    fun value role same => by
      rcases value with _ | _ | index <;> cases same <;> rfl

def messageFormat : Closed OracleMessage :=
  (((u64.after (ascii "\x7b\"sequence\":")).pair
    ((u64.after (ascii ",\"payload_hash\":")).pair
      ((numeral.after (ascii ",\"payload_len\":")).pair
        (u64.after (ascii ",\"timestamp_ns\":"))
        fun _ _ _ => noDigit_comma _)
      fun _ _ _ => noDigit_comma _)
    fun _ _ _ => noDigit_comma _).before (ascii "\x7d") fun _ => noDigit_brace _).convert
    (fun (sequence, payloadHash, payloadLen, timestampNs) =>
      some (OracleMessage.mk sequence payloadHash payloadLen timestampNs))
    (fun message =>
      (message.sequence, message.payloadHash, message.payloadLen, message.timestampNs))
    (fun _ => rfl) fun _ _ same => by cases same; rfl

def messagesFormat : Closed (List OracleMessage) :=
  messageFormat.list 44 93 123 (fun _ => rfl) (by decide) (by decide)

def reportFormat : Closed ChildReport :=
  (((roleFormat.after (ascii "\x7b\"role\":")).pair
    ((messagesFormat.after (ascii ",\"messages\":[")).pair
      ((u64.after (ascii ",\"checksum_total\":")).pair
        ((u64.after (ascii ",\"backpressure_events\":")).pair
          (u64.after (ascii ",\"attached_after_ms\":"))
          fun _ _ _ => noDigit_comma _)
        fun _ _ _ => noDigit_comma _)
      fun _ _ _ => trivial)
    fun _ _ _ => trivial).before (ascii "\x7d") fun _ => noDigit_brace _).convert
    (fun (role, messages, checksumTotal, backpressureEvents, attachedAfterMs) =>
      some (ChildReport.mk role messages checksumTotal backpressureEvents attachedAfterMs))
    (fun report => (report.role, report.messages, report.checksumTotal,
      report.backpressureEvents, report.attachedAfterMs))
    (fun _ => rfl) fun _ _ same => by cases same; rfl

theorem reportFormat_json : Json reportFormat.print reportFormat.readWhole where
  roundTrip := reportFormat.readWhole_print
  torn _ _ := reportFormat.readWhole_torn

theorem served_handed : Served patientReader 1 fun events => [handed events] := by
  intro events
  refine ⟨rfl, fun looks member => servesTwo_served events |>.2 looks ?_⟩
  rw [List.mem_singleton.mp member]
  exact List.mem_cons_self

end Dst
