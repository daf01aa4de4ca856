/-
Deterministic BUGGIFY decisions.

What a call of a site decides depends on the settings, on the site and on the number of calls
of the site before it, never on the calls of other sites in between. A scope sets the settings
for what is run in it, which can be run again in any later process with the same outcome, and
leaves nothing behind but cleared counters.
-/

import Myelon.Mixing.Words

namespace Dst

open Function

/-! ### The environment -/

inductive OsString where
  | text (value : String)
  | bytes (raw : List UInt8)
deriving DecidableEq

abbrev Environment := String → Option OsString

namespace Environment

variable (environment : Environment)

def var (key : String) : Option String :=
  match environment key with
  | some (.text value) => some value
  | some (.bytes _) => none
  | none => none

def setVar (key value : String) : Environment := fun other =>
  if other = key then some (.text value) else environment other

def removeVar (key : String) : Environment := fun other =>
  if other = key then none else environment other

def assign (key : String) (value : Option String) : Environment :=
  match value with
  | some value => environment.setVar key value
  | none => environment.removeVar key

theorem assign_apply (key other : String) (value : Option String) :
    environment.assign key value other =
      if other = key then value.map OsString.text else environment other := by
  cases value with
  | none => rfl
  | some value => rfl

theorem var_congr {left right : Environment} {key : String} (same : left key = right key) :
    left.var key = right.var key := by
  rw [var, var, same]

theorem var_of_text {environment : Environment} {key : String} {value : Option String}
    (held : environment key = value.map OsString.text) : environment.var key = value := by
  rw [var, held]
  cases value with
  | none => rfl
  | some value => rfl

theorem var_setVar (key value other : String) :
    (environment.setVar key value).var other =
      if other = key then some value else environment.var other := by
  by_cases here : other = key
  · simp only [var, setVar, here, if_true]
  · simp only [var, setVar, here, if_false]

end Environment

namespace Read

def optional (environment : Environment) (key : String) : Option String :=
  environment.var key

def parse {Number : Type} (fromStr : String → Option Number) (environment : Environment)
    (key : String) : Option Number :=
  (environment.var key).bind fromStr

def parseOr {Number : Type} (fromStr : String → Option Number) (environment : Environment)
    (key : String) (default : Number) : Number :=
  (parse fromStr environment key).getD default

end Read

/-! ### Numbers in text -/

/-- Decimal digits, which a plus may precede, of a number that has the given bits. -/
def parseUnsigned (bits : Nat) (raw : String) : Option Nat :=
  let digits := match raw.toList with
    | '+' :: digits => digits
    | digits => digits
  if digits ≠ [] ∧ digits.all Char.isDigit then
    let value := Nat.ofDigitChars 10 digits 0
    if value < 2 ^ bits then some value else none
  else none

def parseU64 (raw : String) : Option UInt64 := (parseUnsigned 64 raw).map UInt64.ofNat

def parseU8 (raw : String) : Option UInt8 := (parseUnsigned 8 raw).map UInt8.ofNat

theorem parseUnsigned_repr {bits value : Nat} (fits : value < 2 ^ bits) :
    parseUnsigned bits value.repr = some value := by
  have plain : ∀ digit ∈ Nat.toDigits 10 value, digit.isDigit := fun digit among =>
    Nat.isDigit_of_mem_toDigits (by omega) (by omega) among
  have all : (Nat.toDigits 10 value).all Char.isDigit := List.all_eq_true.mpr plain
  have unsigned : (match Nat.toDigits 10 value with
      | '+' :: digits => digits
      | digits => digits) = Nat.toDigits 10 value := by
    split
    · rename_i digits signed
      have sign := plain '+' (signed ▸ List.mem_cons_self)
      cases sign
    · rfl
  rw [parseUnsigned, Nat.toList_repr]
  simp only [unsigned, all, and_true, Nat.ofDigitChars_ten_toDigits, if_pos fits,
    if_pos Nat.toDigits_ne_nil]

theorem parseU64_toString (seed : UInt64) : parseU64 (toString seed) = some seed := by
  have written : toString seed = seed.toNat.repr := rfl
  rw [parseU64, written, parseUnsigned_repr seed.toNat_lt, Option.map_some, UInt64.ofNat_toNat]

/-! ### Settings -/

def ENABLED : String := "MYELON_DST_BUGGIFY"

def SEED : String := "MYELON_DST_BUGGIFY_SEED"

def ACTIVATION_PERCENT : String := "MYELON_DST_BUGGIFY_ACTIVATION_PERCENT"

def FIRE_PERCENT : String := "MYELON_DST_BUGGIFY_FIRE_PERCENT"

structure BuggifyConfig where
  seed : UInt64
  activationPercent : UInt8
  firePercent : UInt8
deriving DecidableEq

def BuggifyConfig.fromEnv (environment : Environment) : Option BuggifyConfig :=
  (Read.optional environment ENABLED).bind fun enabled =>
    if enabled = "0" ∨ enabled.toLower = "false" then none
    else some
      { seed := Read.parseOr parseU64 environment SEED 1
        activationPercent := Read.parseOr parseU8 environment ACTIVATION_PERCENT 25
        firePercent := Read.parseOr parseU8 environment FIRE_PERCENT 25 }

/-! ### Call sites -/

structure Site where
  file : String
  line : UInt32
deriving DecidableEq

def mix (x : UInt64) : UInt64 :=
  let x := x ^^^ (x >>> 33)
  let x := x * 0xff51afd7ed558ccd
  let x := x ^^^ (x >>> 33)
  let x := x * 0xc4ceb9fe1a85ec53
  x ^^^ (x >>> 33)

def rotateLeft (word : UInt64) (amount : Nat) : UInt64 := ⟨word.toBitVec.rotateLeft amount⟩

def fileRound (hash : UInt64) (byte : UInt8) : UInt64 :=
  (rotateLeft hash 5 ^^^ byte.toUInt64) * 0x517cc1b727220a95

def callsiteHash (seed : UInt64) (site : Site) (ordinal : UInt64) : UInt64 :=
  let hash := seed ^^^ (site.line.toUInt64 * 0x9e3779b97f4a7c15)
  let hash := site.file.toUTF8.toList.foldl fileRound hash
  mix (hash ^^^ (ordinal * 0x94d049bb133111eb))

theorem mix_injective : Injective mix := by
  have spread : Injective fun word : UInt64 => word ^^^ (word >>> 33) :=
    Mixing.injective_of_toBitVec (fun _ => rfl)
      (Mixing.xorShiftRight_injective (show 0 < 33 by decide))
  have first : Injective fun word : UInt64 => word * 0xff51afd7ed558ccd :=
    Mixing.injective_of_toBitVec (fun _ => rfl)
      (Mixing.mul_injective (show 0xff51afd7ed558ccd#64 * 0x4f74430c22a54005#64 = 1#64 by decide))
  have second : Injective fun word : UInt64 => word * 0xc4ceb9fe1a85ec53 :=
    Mixing.injective_of_toBitVec (fun _ => rfl)
      (Mixing.mul_injective (show 0xc4ceb9fe1a85ec53#64 * 0x9cb4b2f8129337db#64 = 1#64 by decide))
  exact spread.comp (second.comp (spread.comp (first.comp spread)))

theorem fileRound_injective (byte : UInt8) : Injective (fileRound · byte) := by
  have turned : Injective fun word : UInt64 => rotateLeft word 5 :=
    Mixing.injective_of_toBitVec (fun _ => rfl) (Mixing.rotateLeft_injective 5)
  have masked : Injective fun word : UInt64 => word ^^^ byte.toUInt64 :=
    Mixing.injective_of_toBitVec (fun _ => rfl) (Mixing.xor_injective byte.toUInt64.toBitVec)
  have scaled : Injective fun word : UInt64 => word * 0x517cc1b727220a95 :=
    Mixing.injective_of_toBitVec (fun _ => rfl)
      (Mixing.mul_injective (show 0x517cc1b727220a95#64 * 0x2040003d780970bd#64 = 1#64 by decide))
  exact scaled.comp (masked.comp turned)

theorem callsiteHash_seed_injective (site : Site) (ordinal : UInt64) :
    Injective fun seed => callsiteHash seed site ordinal := by
  intro left right same
  have mixed := UInt64.xor_left_inj _ |>.mp (mix_injective same)
  exact UInt64.xor_left_inj _ |>.mp
    (Mixing.foldl_injective fileRound_injective site.file.toUTF8.toList mixed)

theorem callsiteHash_ordinal_injective (seed : UInt64) (site : Site) :
    Injective (callsiteHash seed site) := by
  have scaled : Injective fun word : UInt64 => word * 0x94d049bb133111eb :=
    Mixing.injective_of_toBitVec (fun _ => rfl)
      (Mixing.mul_injective (show 0x94d049bb133111eb#64 * 0x319642b2d24d8ec3#64 = 1#64 by decide))
  intro left right same
  exact scaled (UInt64.xor_right_inj _ |>.mp (mix_injective same))

theorem callsiteHash_line_injective (seed ordinal : UInt64) (file : String) :
    Injective fun line => callsiteHash seed { file := file, line := line } ordinal := by
  have scaled : Injective fun word : UInt64 => word * 0x9e3779b97f4a7c15 :=
    Mixing.injective_of_toBitVec (fun _ => rfl)
      (Mixing.mul_injective (show 0x9e3779b97f4a7c15#64 * 0xf1de83e19937733d#64 = 1#64 by decide))
  intro left right same
  have mixed := UInt64.xor_left_inj _ |>.mp (mix_injective same)
  have folded := Mixing.foldl_injective fileRound_injective file.toUTF8.toList mixed
  have lines := scaled (UInt64.xor_right_inj _ |>.mp folded)
  simpa only [UInt32.toUInt64_inj] using lines

/-! ### Decisions -/

namespace BuggifyConfig

def active (config : BuggifyConfig) (site : Site) : Bool :=
  callsiteHash config.seed site 0 % 100 < config.activationPercent.toUInt64

def fires (config : BuggifyConfig) (site : Site) (ordinal : UInt64) : Bool :=
  callsiteHash (config.seed ^^^ 0xa5a55a5ad15ca11e) site ordinal % 100 <
    config.firePercent.toUInt64

end BuggifyConfig

/-- What the calls of one process share. A site that no call counted has the ordinal zero. -/
structure BuggifyProcess where
  environment : Environment
  counters : Site → UInt64

def decision (config : Option BuggifyConfig) (site : Site) (ordinal : UInt64) : Bool :=
  config.any fun config => config.active site && config.fires site ordinal

namespace BuggifyProcess

variable (process : BuggifyProcess)

def reset : BuggifyProcess := { process with counters := fun _ => 0 }

def config : Option BuggifyConfig := BuggifyConfig.fromEnv process.environment

/-- The calls of a site that is not active are not counted. -/
def buggify (site : Site) : Bool × BuggifyProcess :=
  match BuggifyConfig.fromEnv process.environment with
  | none => (false, process)
  | some config =>
    if config.active site then
      let ordinal := process.counters site
      (config.fires site ordinal,
        { process with counters := update process.counters site (ordinal + 1) })
    else (false, process)

def calls (process : BuggifyProcess) : List Site → List Bool × BuggifyProcess
  | [] => ([], process)
  | site :: later =>
    let (decided, process) := process.buggify site
    let (rest, process) := process.calls later
    (decided :: rest, process)

theorem buggify_config (site : Site) : (process.buggify site).2.config = process.config := by
  unfold buggify config
  split
  · rfl
  · split <;> rfl

theorem buggify_off {process : BuggifyProcess} (off : process.config = none) (site : Site) :
    process.buggify site = (false, process) := by
  rw [config] at off
  rw [buggify, off]

theorem buggify_inactive {process : BuggifyProcess} {settings : BuggifyConfig} {site : Site}
    (stated : process.config = some settings) (inactive : settings.active site = false) :
    process.buggify site = (false, process) := by
  rw [config] at stated
  rw [buggify, stated]
  simp only [inactive, Bool.false_eq_true, if_false]

theorem buggify_active {process : BuggifyProcess} {settings : BuggifyConfig} {site : Site}
    (stated : process.config = some settings) (active : settings.active site = true) :
    process.buggify site =
      (settings.fires site (process.counters site),
        { process with
          counters := update process.counters site (process.counters site + 1) }) := by
  rw [config] at stated
  rw [buggify, stated]
  simp only [active, if_true]

theorem buggify_counters_ne {site other : Site} (differ : other ≠ site) :
    (process.buggify site).2.counters other = process.counters other := by
  cases stated : process.config with
  | none => rw [buggify_off stated]
  | some settings =>
    cases active : settings.active site with
    | false => rw [buggify_inactive stated active]
    | true =>
      rw [buggify_active stated active]
      exact update_of_ne differ _ _

theorem decision_off (site : Site) (ordinal : UInt64) : decision none site ordinal = false := rfl

theorem decision_inactive {settings : BuggifyConfig} {site : Site}
    (inactive : settings.active site = false) (ordinal : UInt64) :
    decision (some settings) site ordinal = false := by
  rw [decision, Option.any_some, inactive, Bool.false_and]

theorem buggify_decides (site : Site) :
    (process.buggify site).1 = decision process.config site (process.counters site) := by
  cases stated : process.config with
  | none =>
    rw [buggify_off stated]
    rfl
  | some settings =>
    cases active : settings.active site with
    | false => rw [buggify_inactive stated active, decision_inactive active]
    | true => rw [buggify_active stated active, decision, Option.any_some, active, Bool.true_and]

/-- Where a call is not counted no call of the site fires, whatever its ordinal. -/
theorem decision_next (site : Site) (later : Nat) :
    decision process.config site ((process.buggify site).2.counters site + UInt64.ofNat later) =
      decision process.config site (process.counters site + UInt64.ofNat (later + 1)) := by
  cases stated : process.config with
  | none => rw [decision_off, decision_off]
  | some settings =>
    cases active : settings.active site with
    | false => rw [decision_inactive active, decision_inactive active]
    | true =>
      have counted : process.counters site + 1 + UInt64.ofNat later =
          process.counters site + UInt64.ofNat (later + 1) := by
        rw [UInt64.ofNat_add, UInt64.add_assoc, UInt64.add_comm (UInt64.ofNat later)]
        rfl
      rw [buggify_active stated active, ← counted]
      dsimp only
      rw [update_self]

end BuggifyProcess

def decisionsAt (site : Site) (sites : List Site) (decisions : List Bool) : List Bool :=
  ((sites.zip decisions).filter fun call => call.1 = site).map Prod.snd

theorem calls_decisions (process : BuggifyProcess) (site : Site) (sites : List Site) :
    decisionsAt site sites (process.calls sites).1 =
      (List.range (sites.count site)).map fun call =>
        decision process.config site (process.counters site + UInt64.ofNat call) := by
  induction sites generalizing process with
  | nil => rfl
  | cons called later ih =>
    have behind := ih (process.buggify called).2
    rw [process.buggify_config] at behind
    by_cases here : called = site
    · subst here
      rw [List.count_cons_self, List.range_succ_eq_map, List.map_cons, List.map_map]
      simp only [decisionsAt, BuggifyProcess.calls, List.zip_cons_cons, List.filter_cons,
        decide_true, if_true, List.map_cons] at behind ⊢
      rw [behind, process.buggify_decides]
      simp only [process.decision_next]
      simp
    · rw [List.count_cons_of_ne here]
      simp only [decisionsAt, BuggifyProcess.calls, List.zip_cons_cons, List.filter_cons,
        here, decide_false, Bool.false_eq_true, if_false] at behind ⊢
      simpa only [process.buggify_counters_ne (Ne.symm here)] using behind

theorem roll_lt {percent : UInt8} (whole : 100 ≤ percent) (hash : UInt64) :
    hash % 100 < percent.toUInt64 := by
  rw [UInt64.lt_iff_toNat_lt, UInt64.toNat_mod, UInt8.toNat_toUInt64]
  have bound : (100 : UInt8).toNat ≤ percent.toNat := UInt8.le_iff_toNat_le.mp whole
  have small := Nat.mod_lt hash.toNat (show 0 < (100 : UInt64).toNat by decide)
  exact Nat.lt_of_lt_of_le small bound

theorem not_roll_lt (hash : UInt64) : ¬ hash % 100 < (0 : UInt8).toUInt64 := by
  rw [UInt64.lt_iff_toNat_lt]
  exact Nat.not_lt_zero _

/-- In whatever order the sites are called, the decisions at one are those of its own ordinals.
Full percentages fire every call and an empty one none, and the hashes that are rolled tell
ordinals, seeds and the lines of a file apart. -/
theorem buggify_decisions :
    (∀ (process : BuggifyProcess) site sites,
      decisionsAt site sites (process.calls sites).1 =
        (List.range (sites.count site)).map fun call =>
          decision process.config site (process.counters site + UInt64.ofNat call)) ∧
    (∀ (config : BuggifyConfig) site ordinal,
      (100 ≤ config.activationPercent → 100 ≤ config.firePercent →
        decision (some config) site ordinal = true) ∧
      (config.activationPercent = 0 ∨ config.firePercent = 0 →
        decision (some config) site ordinal = false)) ∧
    (∀ seed site, Injective (callsiteHash seed site)) ∧
    (∀ site ordinal, Injective fun seed => callsiteHash seed site ordinal) ∧
    ∀ seed ordinal file,
      Injective fun line => callsiteHash seed { file := file, line := line } ordinal := by
  refine ⟨calls_decisions, ?_, callsiteHash_ordinal_injective, callsiteHash_seed_injective,
    callsiteHash_line_injective⟩
  intro config site ordinal
  rw [decision, Option.any_some, BuggifyConfig.active, BuggifyConfig.fires]
  constructor
  · intro everySite everyCall
    simp only [roll_lt everySite, roll_lt everyCall, decide_true, Bool.and_self]
  · intro empty
    rcases empty with noSite | noCall
    · simp only [noSite, not_roll_lt, decide_false, Bool.false_and]
    · simp only [noCall, not_roll_lt, decide_false, Bool.and_false]

/-! ### Scopes -/

structure ScopedBuggify where
  previousEnabled : Option String
  previousSeed : Option String
  previousActivationPercent : Option String
  previousFirePercent : Option String

namespace ScopedBuggify

def new (seed : UInt64) (process : BuggifyProcess) : ScopedBuggify × BuggifyProcess :=
  let guard : ScopedBuggify :=
    { previousEnabled := process.environment.var ENABLED
      previousSeed := process.environment.var SEED
      previousActivationPercent := process.environment.var ACTIVATION_PERCENT
      previousFirePercent := process.environment.var FIRE_PERCENT }
  let environment := process.environment.setVar ENABLED "1"
  let environment := environment.setVar SEED (toString seed)
  (guard, { process with environment := environment }.reset)

def drop (guard : ScopedBuggify) (process : BuggifyProcess) : BuggifyProcess :=
  let environment := process.environment.assign ENABLED guard.previousEnabled
  let environment := environment.assign SEED guard.previousSeed
  let environment := environment.assign ACTIVATION_PERCENT guard.previousActivationPercent
  let environment := environment.assign FIRE_PERCENT guard.previousFirePercent
  { process with environment := environment }.reset

theorem drop_apply (guard : ScopedBuggify) (process : BuggifyProcess) (key : String) :
    (guard.drop process).environment key =
      if key = FIRE_PERCENT then guard.previousFirePercent.map OsString.text
      else if key = ACTIVATION_PERCENT then
        guard.previousActivationPercent.map OsString.text
      else if key = SEED then guard.previousSeed.map OsString.text
      else if key = ENABLED then guard.previousEnabled.map OsString.text
      else process.environment key := by
  simp only [drop, BuggifyProcess.reset, Environment.assign_apply]

end ScopedBuggify

/-- What a test does between calls, in scopes or out of them. -/
inductive Script where
  | done
  | call (site : Site) (rest : Script)
  | assign (key : String) (value : Option String) (rest : Script)
  | reset (rest : Script)
  | scope (seed : UInt64) (body rest : Script)

def Script.run : Script → BuggifyProcess → List Bool × BuggifyProcess
  | .done, process => ([], process)
  | .call site rest, process =>
    let (decided, process) := process.buggify site
    let (later, process) := rest.run process
    (decided :: later, process)
  | .assign key value rest, process =>
    rest.run { process with environment := process.environment.assign key value }
  | .reset rest, process => rest.run process.reset
  | .scope seed body rest, process =>
    let (guard, process) := ScopedBuggify.new seed process
    let (within, process) := body.run process
    let (later, process) := rest.run (guard.drop process)
    (within ++ later, process)

def settingKeys : List String := [ENABLED, SEED, ACTIVATION_PERCENT, FIRE_PERCENT]

structure Alike (left right : BuggifyProcess) : Prop where
  readings : ∀ key ∈ settingKeys, left.environment.var key = right.environment.var key
  counters : left.counters = right.counters

namespace Alike

variable {left right : BuggifyProcess}

theorem each (alike : Alike left right) :
    left.environment.var ENABLED = right.environment.var ENABLED ∧
      left.environment.var SEED = right.environment.var SEED ∧
      left.environment.var ACTIVATION_PERCENT = right.environment.var ACTIVATION_PERCENT ∧
      left.environment.var FIRE_PERCENT = right.environment.var FIRE_PERCENT := by
  have readings := alike.readings
  simpa only [settingKeys, List.forall_mem_cons, List.not_mem_nil, false_implies,
    implies_true, and_true] using readings

theorem config (alike : Alike left right) : left.config = right.config := by
  obtain ⟨enabled, seed, activation, fire⟩ := alike.each
  simp only [BuggifyProcess.config, BuggifyConfig.fromEnv, Read.optional, Read.parseOr,
    Read.parse, enabled, seed, activation, fire]

theorem buggify (alike : Alike left right) (site : Site) :
    (left.buggify site).1 = (right.buggify site).1 ∧
      Alike (left.buggify site).2 (right.buggify site).2 := by
  have same := alike.config
  have counted := congrFun alike.counters site
  cases stated : right.config with
  | none =>
    rw [BuggifyProcess.buggify_off (same.trans stated), BuggifyProcess.buggify_off stated]
    exact ⟨rfl, alike⟩
  | some settings =>
    cases active : settings.active site with
    | false =>
      rw [BuggifyProcess.buggify_inactive (same.trans stated) active,
        BuggifyProcess.buggify_inactive stated active]
      exact ⟨rfl, alike⟩
    | true =>
      rw [BuggifyProcess.buggify_active (same.trans stated) active,
        BuggifyProcess.buggify_active stated active, counted, alike.counters]
      exact ⟨rfl, alike.readings, rfl⟩

theorem assign (alike : Alike left right) (key : String) (value : Option String) :
    Alike { left with environment := left.environment.assign key value }
      { right with environment := right.environment.assign key value } := by
  refine ⟨?_, alike.counters⟩
  intro other among
  have before := alike.readings other among
  by_cases here : other = key
  · apply Environment.var_congr
    simp only [Environment.assign_apply, if_pos here]
  · unfold Environment.var at before ⊢
    simpa only [Environment.assign_apply, if_neg here] using before

theorem reset (alike : Alike left right) : Alike left.reset right.reset :=
  ⟨alike.readings, rfl⟩

/-- Nothing that was there before but the percentages counts in a scope. -/
theorem new (seed : UInt64)
    (activation : left.environment.var ACTIVATION_PERCENT =
      right.environment.var ACTIVATION_PERCENT)
    (fire : left.environment.var FIRE_PERCENT = right.environment.var FIRE_PERCENT) :
    Alike (ScopedBuggify.new seed left).2 (ScopedBuggify.new seed right).2 := by
  refine ⟨?_, rfl⟩
  intro key among
  simp only [ScopedBuggify.new, BuggifyProcess.reset, Environment.var_setVar]
  simp only [settingKeys, List.mem_cons, List.not_mem_nil, or_false] at among
  rcases among with rfl | rfl | rfl | rfl
  · rfl
  · rfl
  · rw [activation]
  · rw [fire]

theorem drop (guard : ScopedBuggify) (left right : BuggifyProcess) :
    Alike (guard.drop left) (guard.drop right) := by
  refine ⟨?_, rfl⟩
  intro key among
  apply Environment.var_congr
  simp only [settingKeys, List.mem_cons, List.not_mem_nil, or_false] at among
  rw [ScopedBuggify.drop_apply, ScopedBuggify.drop_apply]
  rcases among with rfl | rfl | rfl | rfl <;> rfl

theorem run (script : Script) {left right : BuggifyProcess} (alike : Alike left right) :
    (script.run left).1 = (script.run right).1 ∧
      Alike (script.run left).2 (script.run right).2 := by
  induction script generalizing left right with
  | done => exact ⟨rfl, alike⟩
  | call site rest ih =>
    obtain ⟨decided, behind⟩ := alike.buggify site
    obtain ⟨later, after⟩ := ih behind
    rw [Script.run, Script.run]
    exact ⟨congrArg₂ List.cons decided later, after⟩
  | assign key value rest ih => exact ih (alike.assign key value)
  | reset rest ih => exact ih alike.reset
  | scope seed body rest inner outer =>
    obtain ⟨enabled, seeded, activation, fire⟩ := alike.each
    have guards : (ScopedBuggify.new seed left).1 = (ScopedBuggify.new seed right).1 := by
      simp only [ScopedBuggify.new, enabled, seeded, activation, fire]
    obtain ⟨within, _⟩ := inner (Alike.new seed activation fire)
    obtain ⟨later, after⟩ := outer (Alike.drop (ScopedBuggify.new seed right).1
      (body.run (ScopedBuggify.new seed left).2).2 (body.run (ScopedBuggify.new seed right).2).2)
    rw [Script.run, Script.run]
    dsimp only
    rw [guards]
    exact ⟨congrArg₂ List.append within later, after⟩

end Alike

theorem drop_new (seed : UInt64) (process body : BuggifyProcess) {key : String}
    (among : key ∈ settingKeys) :
    ((ScopedBuggify.new seed process).1.drop body).environment key =
      (process.environment.var key).map OsString.text := by
  simp only [settingKeys, List.mem_cons, List.not_mem_nil, or_false] at among
  rw [ScopedBuggify.drop_apply]
  rcases among with rfl | rfl | rfl | rfl <;> rfl

theorem alike_drop_new (seed : UInt64) (process body : BuggifyProcess) :
    Alike ((ScopedBuggify.new seed process).1.drop body) process.reset where
  readings _ among := Environment.var_of_text (drop_new seed process body among)
  counters := rfl

theorem config_new (seed : UInt64) (process : BuggifyProcess) :
    (ScopedBuggify.new seed process).2.config = some
      { seed := seed
        activationPercent := Read.parseOr parseU8 process.environment ACTIVATION_PERCENT 25
        firePercent := Read.parseOr parseU8 process.environment FIRE_PERCENT 25 } := by
  have enabled : (ScopedBuggify.new seed process).2.environment.var ENABLED = some "1" := rfl
  have written : (ScopedBuggify.new seed process).2.environment.var SEED =
      some (toString seed) := rfl
  have activation : (ScopedBuggify.new seed process).2.environment.var ACTIVATION_PERCENT =
      process.environment.var ACTIVATION_PERCENT := rfl
  have fire : (ScopedBuggify.new seed process).2.environment.var FIRE_PERCENT =
      process.environment.var FIRE_PERCENT := rfl
  have positive : ¬ ("1" = "0" ∨ "1".toLower = "false") := by
    intro negative
    rcases negative with zero | word
    · exact absurd zero (by decide)
    · have letters : ("1".map Char.toLower).length = "false".length :=
        congrArg String.length word
      rw [String.length_map] at letters
      exact absurd letters (by decide)
  simp only [BuggifyProcess.config, BuggifyConfig.fromEnv, Read.optional, Read.parseOr,
    Read.parse, enabled, written, activation, fire, Option.bind_some, if_neg positive,
    parseU64_toString, Option.getD_some]

/-- A scope is run with its seed and the percentages that it finds, and decides as in any other
process with the same percentages, whatever was called there before. After it the settings
read as before, no call is counted, and the rest decides as after a reset. -/
theorem scopes_replayed :
    (∀ seed process, (ScopedBuggify.new seed process).2.config = some
      { seed := seed
        activationPercent := Read.parseOr parseU8 process.environment ACTIVATION_PERCENT 25
        firePercent := Read.parseOr parseU8 process.environment FIRE_PERCENT 25 }) ∧
    (∀ seed (body : Script) (left right : BuggifyProcess),
      (∀ key ∈ [ACTIVATION_PERCENT, FIRE_PERCENT],
        left.environment.var key = right.environment.var key) →
      (body.run (ScopedBuggify.new seed left).2).1 =
        (body.run (ScopedBuggify.new seed right).2).1) ∧
    (∀ seed (body rest : Script) (process : BuggifyProcess),
      ((Script.scope seed body rest).run process).1 =
        (body.run (ScopedBuggify.new seed process).2).1 ++ (rest.run process.reset).1) ∧
    ∀ seed body process,
      (∀ key ∈ settingKeys, ((Script.scope seed body .done).run process).2.environment key =
        (process.environment.var key).map OsString.text) ∧
      ((Script.scope seed body .done).run process).2.counters = fun _ => 0 := by
  refine ⟨config_new, ?_, ?_, ?_⟩
  · intro seed body left right percentages
    have activation := percentages ACTIVATION_PERCENT (by simp)
    have fire := percentages FIRE_PERCENT (by simp)
    exact ((Alike.new seed activation fire).run body).1
  · intro seed body rest process
    have after := alike_drop_new seed process (body.run (ScopedBuggify.new seed process).2).2
    exact congrArg (_ ++ ·) (after.run rest).1
  · intro seed body process
    exact ⟨fun key among => drop_new seed process _ among, rfl⟩

end Dst
