/-
What is derived from a seed.

The generator is a permutation of the words that are not zero. A startup schedule spawns each
process once and numbers its steps; the faults of a plan are in order, and a schedule of the same
cap passes every step at which one of them is to be injected.
-/

import Myelon.Delivery.Numbering
import Myelon.Dst.Trace
import Myelon.Mixing.Words

namespace Dst

open Delivery Function

/-! ### The generator -/

structure XorShift64 where
  state : UInt64

namespace XorShift64

def new (seed : UInt64) : XorShift64 :=
  { state := if seed = 0 then 0x9E3779B185EBCA87 else seed }

def mixed (state : UInt64) : UInt64 :=
  let x := state
  let x := x ^^^ (x <<< 7)
  let x := x ^^^ (x >>> 9)
  x ^^^ (x <<< 8)

def nextU64 (rng : XorShift64) : UInt64 × XorShift64 :=
  (mixed rng.state, { state := mixed rng.state })

/-- Nothing is drawn where there is nothing to choose from. -/
def nextU32 (rng : XorShift64) (maxExclusive : UInt32) : UInt32 × XorShift64 :=
  if maxExclusive = 0 then (0, rng)
  else
    let (word, rng) := rng.nextU64
    ((word % maxExclusive.toUInt64).toUInt32, rng)

theorem mixed_injective : Injective mixed := by
  have first : Injective fun word : UInt64 => word ^^^ (word <<< 7) :=
    Mixing.injective_of_toBitVec (fun _ => rfl)
      (Mixing.xorShiftLeft_injective (show 0 < 7 by decide))
  have second : Injective fun word : UInt64 => word ^^^ (word >>> 9) :=
    Mixing.injective_of_toBitVec (fun _ => rfl)
      (Mixing.xorShiftRight_injective (show 0 < 9 by decide))
  have third : Injective fun word : UInt64 => word ^^^ (word <<< 8) :=
    Mixing.injective_of_toBitVec (fun _ => rfl)
      (Mixing.xorShiftLeft_injective (show 0 < 8 by decide))
  exact third.comp (second.comp first)

theorem mixed_zero : mixed 0 = 0 := by decide

theorem new_nonzero (seed : UInt64) : (new seed).state ≠ 0 := by
  rw [new]
  dsimp only
  split
  · decide
  · assumption

theorem nextU32_lt (rng : XorShift64) {maxExclusive : UInt32} (some : maxExclusive ≠ 0) :
    (rng.nextU32 maxExclusive).1 < maxExclusive := by
  have positive : 0 < maxExclusive.toNat := Nat.pos_of_ne_zero fun zero =>
    some (UInt32.toNat_inj.mp zero)
  have small : (rng.nextU64.1 % maxExclusive.toUInt64).toNat < maxExclusive.toNat := by
    rw [UInt64.toNat_mod, UInt32.toNat_toUInt64]
    exact Nat.mod_lt _ positive
  rw [nextU32, if_neg some, UInt32.lt_iff_toNat_lt]
  change (rng.nextU64.1 % maxExclusive.toUInt64).toUInt32.toNat < _
  rw [UInt64.toNat_toUInt32, Nat.mod_eq_of_lt (Nat.lt_trans small maxExclusive.toNat_lt)]
  exact small

def drawn (rng : XorShift64) : Nat → UInt64
  | 0 => rng.nextU64.1
  | count + 1 => rng.nextU64.2.drawn count

theorem drawn_eq (rng : XorShift64) (count : Nat) :
    rng.drawn count = mixed^[count + 1] rng.state := by
  induction count generalizing rng with
  | zero => rfl
  | succ count ih => exact ih rng.nextU64.2

/-- No seed gets the generator stuck, the words of each come around again, and two seeds never
draw the same word at the same place. -/
theorem generator_sound :
    (∀ seed count, (new seed).drawn count ≠ 0) ∧
    (∀ seed, ∃ period, 0 < period ∧ ∀ count,
      (new seed).drawn (count + period) = (new seed).drawn count) ∧
    ∀ left right, left ≠ 0 → right ≠ 0 → left ≠ right → ∀ count,
      (new left).drawn count ≠ (new right).drawn count := by
  refine ⟨?_, ?_, ?_⟩
  · intro seed count
    rw [drawn_eq]
    exact Mixing.iterate_ne mixed_injective mixed_zero (new_nonzero seed) _
  · intro seed
    have finite := Mixing.finite_word
    obtain ⟨period, positive, around⟩ := Mixing.returns mixed_injective (new seed).state
    refine ⟨period, positive, ?_⟩
    intro count
    rw [drawn_eq, drawn_eq, Nat.add_right_comm, iterate_add_apply, around]
  · intro left right leftSome rightSome differ count same
    rw [drawn_eq, drawn_eq, new, new, if_neg leftSome, if_neg rightSome] at same
    exact differ (mixed_injective.iterate _ same)

end XorShift64

/-! ### Startup schedules -/

structure ScheduledStep where
  step : Nat
  action : SchedulerAction
  role : ProcessRole
  attempt : UInt32
  planId : String
  profile : String

structure StartupSchedule where
  planId : String
  seed : UInt64
  stepCap : UInt64
  steps : List ScheduledStep

structure Building where
  rng : XorShift64
  step : Nat
  steps : List ScheduledStep

namespace Building

variable (planId profile : String)

def push (building : Building) (action : SchedulerAction) (role : ProcessRole) : Building :=
  { building with
    step := building.step + 1
    steps := building.steps ++
      [{ step := building.step, action, role, attempt := 0, planId, profile }] }

def spawnConsumer (building : Building) (index : Nat) : Building :=
  let building := building.push planId profile .spawn (.consumer (UInt32.ofNat index))
  let (roll, rng) := building.rng.nextU32 4
  let delay := roll.toUInt64
  let building := { building with rng }
  if 0 < delay then building.push planId profile (.sleepMs (25 * delay)) .orchestrator
  else building

/-- The loop that fills the schedule up to its cap. -/
def fill (building : Building) (maxSteps : Nat) : Building :=
  (List.range (maxSteps - building.step)).foldl (fun building _ =>
    building.push planId profile (.sleepMs 10) .orchestrator) building

end Building

namespace StartupSchedule

def fromSeed (planId : String) (seed : UInt64) (consumers : UInt32) (maxSteps : UInt64) :
    StartupSchedule :=
  let (roll, rng) := (XorShift64.new seed).nextU32 2
  let producerFirst : Bool := roll == 0
  let profile := if producerFirst then "producer_first" else "consumer_first"
  let building : Building := { rng, step := 0, steps := [] }
  let building := if producerFirst then building.push planId profile .spawn .producer else building
  let building :=
    (List.range consumers.toNat).foldl (Building.spawnConsumer planId profile) building
  let building := if producerFirst then building else building.push planId profile .spawn .producer
  let building := building.fill planId profile maxSteps.toNat
  { planId, seed, stepCap := maxSteps, steps := building.steps }

def isDeterministic (schedule : StartupSchedule) : Bool := !schedule.steps.isEmpty

def spawned (steps : List ScheduledStep) : List ProcessRole :=
  (steps.filter fun scheduled => scheduled.action = .spawn).map ScheduledStep.role

end StartupSchedule

structure ScheduledStep.Plain (planId profile : String) (scheduled : ScheduledStep) : Prop where
  attempt : scheduled.attempt = 0
  planId : scheduled.planId = planId
  profile : scheduled.profile = profile
  acts : (scheduled.action = .spawn ∧ scheduled.role ≠ .orchestrator) ∨
    ∃ duration ∈ [(10 : UInt64), 25, 50, 75],
      scheduled.action = .sleepMs duration ∧ scheduled.role = .orchestrator

structure Building.Sound (planId profile : String) (roles : List ProcessRole)
    (building : Building) : Prop where
  next : building.step = building.steps.length
  numbered : building.steps.map ScheduledStep.step = List.range building.steps.length
  plain : ∀ scheduled ∈ building.steps, scheduled.Plain planId profile
  spawned : StartupSchedule.spawned building.steps = roles

namespace Building

variable {planId profile : String} {roles : List ProcessRole} {building : Building}

theorem push_length (planId profile : String) (building : Building) (action : SchedulerAction)
    (role : ProcessRole) :
    (building.push planId profile action role).steps.length = building.steps.length + 1 :=
  List.length_append

theorem Sound.push (sound : building.Sound planId profile roles) {action : SchedulerAction}
    {role : ProcessRole}
    (acts : (action = .spawn ∧ role ≠ .orchestrator) ∨
      ∃ duration ∈ [(10 : UInt64), 25, 50, 75], action = .sleepMs duration ∧ role = .orchestrator) :
    (building.push planId profile action role).Sound planId profile
      (roles ++ if action = .spawn then [role] else []) where
  next := by
    rw [push_length, ← sound.next]
    rfl
  numbered := by
    rw [push_length, Building.push, List.map_append, sound.numbered, List.range_succ, ← sound.next]
    rfl
  plain := by
    intro scheduled member
    rcases List.mem_append.mp member with before | now
    · exact sound.plain scheduled before
    · rw [List.mem_singleton.mp now]
      exact ⟨rfl, rfl, rfl, acts⟩
  spawned := by
    rw [← sound.spawned, Building.push, StartupSchedule.spawned, List.filter_append,
      List.map_append]
    congr 1
    rw [List.filter_cons, List.filter_nil]
    by_cases spawns : action = .spawn
    · rw [if_pos spawns, if_pos (decide_eq_true spawns)]
      rfl
    · rw [if_neg spawns, if_neg (by rw [decide_eq_false spawns]; exact Bool.false_ne_true)]
      rfl

theorem Sound.push_spawn (sound : building.Sound planId profile roles) {role : ProcessRole}
    (process : role ≠ .orchestrator) :
    (building.push planId profile .spawn role).Sound planId profile (roles ++ [role]) := by
  have pushed := sound.push (.inl ⟨rfl, process⟩)
  rw [if_pos rfl] at pushed
  exact pushed

theorem Sound.push_sleep (sound : building.Sound planId profile roles) {duration : UInt64}
    (known : duration ∈ [(10 : UInt64), 25, 50, 75]) :
    (building.push planId profile (.sleepMs duration) .orchestrator).Sound planId profile
      roles := by
  have pushed := sound.push (.inr ⟨duration, known, rfl, rfl⟩)
  rw [if_neg nofun, List.append_nil] at pushed
  exact pushed

theorem roll_cases {roll : UInt32} (small : roll < 4) :
    roll = 0 ∨ roll = 1 ∨ roll = 2 ∨ roll = 3 := by
  have bound : roll.toNat < 4 := small
  have values : roll.toNat = 0 ∨ roll.toNat = 1 ∨ roll.toNat = 2 ∨ roll.toNat = 3 := by omega
  rcases values with value | value | value | value
  · exact .inl (UInt32.toNat_inj.mp value)
  · exact .inr (.inl (UInt32.toNat_inj.mp value))
  · exact .inr (.inr (.inl (UInt32.toNat_inj.mp value)))
  · exact .inr (.inr (.inr (UInt32.toNat_inj.mp value)))

theorem Sound.withRng (sound : building.Sound planId profile roles) (rng : XorShift64) :
    { building with rng }.Sound planId profile roles :=
  { next := sound.next, numbered := sound.numbered, plain := sound.plain, spawned := sound.spawned }

theorem Sound.step_lt (sound : building.Sound planId profile roles) {scheduled : ScheduledStep}
    (member : scheduled ∈ building.steps) : scheduled.step < building.steps.length := by
  have listed : scheduled.step ∈ building.steps.map ScheduledStep.step :=
    List.mem_map_of_mem member
  rw [sound.numbered] at listed
  exact List.mem_range.mp listed

theorem spawnConsumer_cases (planId profile : String) (building : Building) (index : Nat) :
    ∃ rng, let spawned := { building.push planId profile .spawn
        (.consumer (UInt32.ofNat index)) with rng }
      building.spawnConsumer planId profile index = spawned ∨
      ∃ duration ∈ [(10 : UInt64), 25, 50, 75], building.spawnConsumer planId profile index =
        spawned.push planId profile (.sleepMs duration) .orchestrator := by
  let spawned := building.push planId profile .spawn (.consumer (UInt32.ofNat index))
  refine ⟨(spawned.rng.nextU32 4).2, ?_⟩
  have unfolded : building.spawnConsumer planId profile index =
      if 0 < (spawned.rng.nextU32 4).1.toUInt64 then
        { spawned with rng := (spawned.rng.nextU32 4).2 }.push planId profile
          (.sleepMs (25 * (spawned.rng.nextU32 4).1.toUInt64)) .orchestrator
      else { spawned with rng := (spawned.rng.nextU32 4).2 } := rfl
  rw [unfolded]
  rcases roll_cases (spawned.rng.nextU32_lt (show (4 : UInt32) ≠ 0 by decide)) with
    roll | roll | roll | roll
  · rw [roll]
    exact .inl rfl
  · rw [roll]
    exact .inr ⟨25, by decide, rfl⟩
  · rw [roll]
    exact .inr ⟨50, by decide, rfl⟩
  · rw [roll]
    exact .inr ⟨75, by decide, rfl⟩

theorem Sound.spawnConsumer (sound : building.Sound planId profile roles) (index : Nat) :
    (building.spawnConsumer planId profile index).Sound planId profile
        (roles ++ [.consumer (UInt32.ofNat index)]) ∧
      (building.spawnConsumer planId profile index).steps.length ≤ building.steps.length + 2 := by
  have process : ProcessRole.consumer (UInt32.ofNat index) ≠ .orchestrator := nofun
  obtain ⟨rng, quiet | ⟨duration, known, paused⟩⟩ :=
    spawnConsumer_cases planId profile building index
  · rw [quiet]
    refine ⟨(sound.push_spawn process).withRng rng, ?_⟩
    change (building.push planId profile _ _).steps.length ≤ _
    rw [push_length]
    omega
  · rw [paused]
    refine ⟨((sound.push_spawn process).withRng rng).push_sleep known, ?_⟩
    rw [push_length]
    change (building.push planId profile _ _).steps.length + 1 ≤ _
    rw [push_length]

theorem Sound.spawnConsumers (sound : building.Sound planId profile roles) (count : Nat) :
    ((List.range count).foldl (Building.spawnConsumer planId profile) building).Sound planId profile
        (roles ++ (List.range count).map fun index => .consumer (UInt32.ofNat index)) ∧
      ((List.range count).foldl (Building.spawnConsumer planId profile) building).steps.length ≤
        building.steps.length + 2 * count := by
  induction count with
  | zero =>
      rw [List.range_zero, List.map_nil, List.append_nil]
      exact ⟨sound, Nat.le_refl _⟩
  | succ count ih =>
      obtain ⟨next, length⟩ := ih.1.spawnConsumer count
      rw [List.range_succ, List.foldl_append, List.map_append, ← List.append_assoc]
      refine ⟨next, Nat.le_trans length ?_⟩
      have before := ih.2
      omega

theorem Sound.fill (sound : building.Sound planId profile roles) (maxSteps : Nat) :
    (building.fill planId profile maxSteps).Sound planId profile roles ∧
      (building.fill planId profile maxSteps).steps.length =
        max building.steps.length maxSteps := by
  have pauses : ∀ count,
      ((List.range count).foldl (fun building _ =>
        building.push planId profile (.sleepMs 10) .orchestrator) building).Sound planId profile
          roles ∧
      ((List.range count).foldl (fun building _ =>
        building.push planId profile (.sleepMs 10) .orchestrator) building).steps.length =
          building.steps.length + count := by
    intro count
    induction count with
    | zero => exact ⟨sound, rfl⟩
    | succ count ih =>
        rw [List.range_succ, List.foldl_append]
        refine ⟨ih.1.push_sleep List.mem_cons_self, ?_⟩
        change (Building.push _ _ _ _ _).steps.length = _
        rw [push_length, ih.2, Nat.add_assoc]
  obtain ⟨filled, length⟩ := pauses (maxSteps - building.step)
  refine ⟨filled, ?_⟩
  rw [Building.fill, length, sound.next]
  omega

end Building

namespace StartupSchedule

def workers (consumers : UInt32) : List ProcessRole :=
  (List.range consumers.toNat).map fun index => .consumer (UInt32.ofNat index)

def InOrder (consumers : UInt32) (profile : String) (roles : List ProcessRole) : Prop :=
  (profile = "producer_first" ∧ roles = .producer :: workers consumers) ∨
    (profile = "consumer_first" ∧ roles = workers consumers ++ [.producer])

theorem InOrder.mem_iff {consumers : UInt32} {profile : String} {roles : List ProcessRole}
    (inOrder : InOrder consumers profile roles) (role : ProcessRole) :
    role ∈ roles ↔ role = .producer ∨ role ∈ workers consumers := by
  rcases inOrder with ⟨_, same⟩ | ⟨_, same⟩
  · rw [same, List.mem_cons]
  · rw [same, List.mem_append, List.mem_singleton, or_comm]

theorem InOrder.steps_ne_nil {consumers : UInt32} {planId profile : String}
    {roles : List ProcessRole} {building : Building} (inOrder : InOrder consumers profile roles)
    (sound : building.Sound planId profile roles) : building.steps ≠ [] := by
  intro empty
  have producer := (inOrder.mem_iff .producer).mpr (.inl rfl)
  rw [← sound.spawned, empty] at producer
  cases producer

/-- How a schedule is built: the two orders differ in the place of the producer only. -/
theorem fromSeed_built (planId : String) (seed : UInt64) (consumers : UInt32)
    (maxSteps : UInt64) :
    ∃ (building : Building) (profile : String) (roles : List ProcessRole),
      (fromSeed planId seed consumers maxSteps).steps = building.steps ∧
      building.Sound planId profile roles ∧ InOrder consumers profile roles ∧
      ∃ needed ≤ 2 * consumers.toNat + 1, building.steps.length = max needed maxSteps.toNat := by
  let start : Building := { rng := ((XorShift64.new seed).nextU32 2).2, step := 0, steps := [] }
  have sound (profile : String) : start.Sound planId profile [] :=
    { next := rfl, numbered := rfl, plain := nofun, spawned := rfl }
  have process : ProcessRole.producer ≠ .orchestrator := nofun
  by_cases first : (((XorShift64.new seed).nextU32 2).1 == 0) = true
  · obtain ⟨built, few⟩ := ((sound "producer_first").push_spawn process).spawnConsumers
      consumers.toNat
    obtain ⟨filled, length⟩ := built.fill maxSteps.toNat
    rw [Building.push_length, Nat.add_comm] at few
    refine ⟨_, _, _, ?_, filled, .inl ⟨rfl, rfl⟩, _, few, length⟩
    simp only [fromSeed, first, if_true]
    rfl
  · obtain ⟨spawning, few⟩ := (sound "consumer_first").spawnConsumers consumers.toNat
    obtain ⟨filled, length⟩ := (spawning.push_spawn process).fill maxSteps.toNat
    rw [Building.push_length] at length
    have least : start.steps.length = 0 := rfl
    rw [least, Nat.zero_add] at few
    refine ⟨_, _, _, ?_, filled, .inr ⟨rfl, rfl⟩, _, Nat.succ_le_succ few, length⟩
    simp only [fromSeed, first, Bool.false_eq_true, if_false]
    rfl

/-- The steps are numbered without a gap, as many as the cap and only then more when they are
needed. The producer is spawned once, in front of all consumers or behind them, each consumer
once, in order, and the other steps only wait. -/
structure WellFormed (planId : String) (consumers : UInt32) (maxSteps : UInt64)
    (schedule : StartupSchedule) : Prop where
  numbered : schedule.steps.map ScheduledStep.step = List.range schedule.steps.length
  deterministic : schedule.isDeterministic = true
  filled : maxSteps.toNat ≤ schedule.steps.length
  few : schedule.steps.length ≤ max maxSteps.toNat (2 * consumers.toNat + 1)
  spawns : ∃ profile, (∀ scheduled ∈ schedule.steps, scheduled.Plain planId profile) ∧
    InOrder consumers profile (spawned schedule.steps)

theorem startup_schedule_sound (planId : String) (seed : UInt64) (consumers : UInt32)
    (maxSteps : UInt64) :
    WellFormed planId consumers maxSteps (fromSeed planId seed consumers maxSteps) := by
  obtain ⟨building, profile, roles, same, sound, inOrder, needed, few, length⟩ :=
    fromSeed_built planId seed consumers maxSteps
  have spawns := sound.spawned
  have some : (fromSeed planId seed consumers maxSteps).steps ≠ [] := by
    rw [same]
    exact inOrder.steps_ne_nil sound
  refine ⟨?_, ?_, by rw [same]; omega, by rw [same]; omega, profile, ?_, ?_⟩
  · rw [same]
    exact sound.numbered
  · rw [isDeterministic, Bool.not_eq_true', List.isEmpty_eq_false_iff]
    exact some
  · rw [same]
    exact sound.plain
  · rw [same, spawns]
    exact inOrder

end StartupSchedule

/-! ### Fault plans -/

inductive FailureKind where
  | delayAttachMs (duration : UInt64)
  | killProcess
  | restartProcess
  | dropConsumerAttach (consumerIndex : UInt32)
  | noop
  deriving DecidableEq

structure FailureStep where
  step : UInt64
  role : ProcessRole
  kind : FailureKind
  deriving DecidableEq

structure DeterministicFaultInjector where
  seed : UInt64
  maxSteps : UInt64
  injectAt : List FailureStep

namespace DeterministicFaultInjector

variable (consumers : UInt32) (maxSteps : UInt64)

def drawRole (rng : XorShift64) : ProcessRole × XorShift64 :=
  if consumers = 0 then (.producer, rng)
  else
    let (side, rng) := rng.nextU32 2
    if side = 0 then (.producer, rng)
    else
      let (index, rng) := rng.nextU32 (if consumers < 1 then 1 else consumers)
      (.consumer index, rng)

def drawKind (rng : XorShift64) : FailureKind × XorShift64 :=
  let (choice, rng) := rng.nextU32 4
  match choice.toNat with
  | 0 =>
      let (delay, rng) := rng.nextU32 4
      (.delayAttachMs (25 * (delay + 1).toUInt64), rng)
  | 1 => (.killProcess, rng)
  | 2 => (.restartProcess, rng)
  | _ => (.noop, rng)

/-- One round of the loop over the faults. The cap is cut to 32 bits. -/
def drawFailure (rng : XorShift64) : FailureStep × XorShift64 :=
  let (step, rng) := rng.nextU32 maxSteps.toUInt32
  let (role, rng) := drawRole consumers rng
  let (kind, rng) := drawKind rng
  ({ step := step.toUInt64, role, kind }, rng)

def drawFailures : Nat → XorShift64 → List FailureStep
  | 0, _ => []
  | count + 1, rng =>
      let (failure, rng) := drawFailure consumers maxSteps rng
      failure :: drawFailures count rng

def fromSeed (seed : UInt64) (consumers : UInt32) (maxSteps : UInt64) :
    DeterministicFaultInjector :=
  let (injectorCount, rng) := (XorShift64.new (seed ^^^ 0xA5A55A5A77AA11EE)).nextU32 3
  { seed
    maxSteps
    injectAt := sortByKey (fun event => event.step.toNat)
      (drawFailures consumers maxSteps injectorCount.toNat rng) }

def atStep (injector : DeterministicFaultInjector) (step : UInt64) : List FailureStep :=
  injector.injectAt.filter fun event => event.step = step

variable {consumers maxSteps}

theorem drawRole_known (rng : XorShift64) :
    (drawRole consumers rng).1 = .producer ∨
      ∃ index < consumers, (drawRole consumers rng).1 = .consumer index := by
  rw [drawRole]
  split
  · exact .inl rfl
  · rename_i some
    dsimp only
    split
    · exact .inl rfl
    · have least : ¬ consumers < 1 := by
        rw [UInt32.lt_iff_toNat_lt]
        intro small
        exact some (UInt32.toNat_inj.mp (Nat.lt_one_iff.mp small))
      rw [if_neg least]
      exact .inr ⟨_, XorShift64.nextU32_lt _ some, rfl⟩

theorem drawFailure_known (rng : XorShift64) :
    (drawFailure consumers maxSteps rng).1.step.toNat < max maxSteps.toNat 1 ∧
    ((drawFailure consumers maxSteps rng).1.role = .producer ∨
      ∃ index < consumers, (drawFailure consumers maxSteps rng).1.role = .consumer index) := by
  refine ⟨?_, drawRole_known _⟩
  change (rng.nextU32 maxSteps.toUInt32).1.toUInt64.toNat < _
  rw [UInt32.toNat_toUInt64]
  by_cases none : maxSteps.toUInt32 = 0
  · rw [XorShift64.nextU32, if_pos none]
    exact Nat.lt_of_lt_of_le Nat.zero_lt_one (Nat.le_max_right _ _)
  · have below := XorShift64.nextU32_lt rng none
    rw [UInt32.lt_iff_toNat_lt, UInt64.toNat_toUInt32] at below
    have cut := Nat.mod_le maxSteps.toNat (2 ^ 32)
    omega

theorem drawFailures_known (count : Nat) (rng : XorShift64) :
    (drawFailures consumers maxSteps count rng).length = count ∧
    ∀ failure ∈ drawFailures consumers maxSteps count rng,
      failure.step.toNat < max maxSteps.toNat 1 ∧
      (failure.role = .producer ∨ ∃ index < consumers, failure.role = .consumer index) := by
  induction count generalizing rng with
  | zero => exact ⟨rfl, nofun⟩
  | succ count ih =>
      obtain ⟨length, later⟩ := ih (drawFailure consumers maxSteps rng).2
      refine ⟨congrArg Nat.succ length, ?_⟩
      intro failure member
      rcases List.mem_cons.mp member with here | behind
      · rw [here]
        exact drawFailure_known rng
      · exact later failure behind

/-- A plan has two faults at most, in order, each below the cap and in a process that there is. -/
theorem fromSeed_known (seed : UInt64) (consumers : UInt32) (maxSteps : UInt64) :
    (fromSeed seed consumers maxSteps).injectAt.length ≤ 2 ∧
    (fromSeed seed consumers maxSteps).injectAt.Pairwise
      (fun first second => first.step.toNat ≤ second.step.toNat) ∧
    ∀ failure ∈ (fromSeed seed consumers maxSteps).injectAt,
      failure.step.toNat < max maxSteps.toNat 1 ∧
      (failure.role = .producer ∨ ∃ index < consumers, failure.role = .consumer index) := by
  let drawn := (XorShift64.new (seed ^^^ 0xA5A55A5A77AA11EE)).nextU32 3
  have permuted : (fromSeed seed consumers maxSteps).injectAt.Perm
      (drawFailures consumers maxSteps drawn.1.toNat drawn.2) := List.mergeSort_perm _ _
  obtain ⟨count, known⟩ :=
    @drawFailures_known consumers maxSteps drawn.1.toNat drawn.2
  refine ⟨?_, sortByKey_ordered _ _, ?_⟩
  · rw [permuted.length_eq, count]
    exact Nat.le_of_lt_succ (XorShift64.nextU32_lt _ (show (3 : UInt32) ≠ 0 by decide))
  · intro failure member
    exact known failure (permuted.mem_iff.mp member)

theorem flatMap_atStep {planId profile : String} {roles : List ProcessRole} {building : Building}
    (sound : building.Sound planId profile roles) (countable : building.steps.length ≤ 2 ^ 64)
    {injector : DeterministicFaultInjector}
    (ordered : injector.injectAt.Pairwise
      (fun first second => first.step.toNat ≤ second.step.toNat))
    (below : ∀ failure ∈ injector.injectAt, failure.step.toNat < building.steps.length) :
    (building.steps.flatMap fun scheduled => injector.atStep (UInt64.ofNat scheduled.step)) =
      injector.injectAt := by
  have asked := flatMap_filter_range ordered below
  rw [← sound.numbered, List.flatMap_map] at asked
  conv_rhs => rw [← asked]
  apply List.flatMap_congr
  intro scheduled member
  have word : scheduled.step < 2 ^ 64 := Nat.lt_of_lt_of_le (sound.step_lt member) countable
  apply List.filter_congr
  intro failure _
  rw [decide_eq_decide, ← UInt64.toNat_inj, UInt64.toNat_ofNat_of_lt' word]

/-- A schedule of the same cap passes every step at which a fault of the plan is to be injected,
so that each of them is injected once, in order, into a process that the schedule has spawned. -/
theorem faults_injected_once (planId : String) (seed faultSeed : UInt64) (consumers : UInt32)
    (maxSteps : UInt64) :
    (fromSeed faultSeed consumers maxSteps).injectAt.length ≤ 2 ∧
    ((StartupSchedule.fromSeed planId seed consumers maxSteps).steps.flatMap fun scheduled =>
        (fromSeed faultSeed consumers maxSteps).atStep (UInt64.ofNat scheduled.step)) =
      (fromSeed faultSeed consumers maxSteps).injectAt ∧
    ∀ failure ∈ (fromSeed faultSeed consumers maxSteps).injectAt,
      failure.role ∈ StartupSchedule.spawned
        (StartupSchedule.fromSeed planId seed consumers maxSteps).steps := by
  obtain ⟨building, profile, roles, same, sound, inOrder, needed, few, length⟩ :=
    StartupSchedule.fromSeed_built planId seed consumers maxSteps
  obtain ⟨pair, ordered, known⟩ := fromSeed_known faultSeed consumers maxSteps
  refine ⟨pair, ?_, ?_⟩
  · rw [same]
    apply flatMap_atStep sound _ ordered
    · intro failure member
      have early := (known failure member).1
      have some := List.length_pos_iff.mpr (inOrder.steps_ne_nil sound)
      omega
    · have capped := maxSteps.toNat_lt
      have counted := consumers.toNat_lt
      omega
  · intro failure member
    rw [same, sound.spawned, inOrder.mem_iff]
    rcases (known failure member).2 with producer | ⟨index, inside, consumer⟩
    · exact .inl producer
    · right
      rw [consumer]
      apply List.mem_map.mpr
      exact ⟨index.toNat, List.mem_range.mpr inside, by rw [UInt32.ofNat_toNat]⟩

end DeterministicFaultInjector

end Dst
