/-
The accounts of a counters file.

What the counter of the header says are the slots that calls hold or have returned, and the
calls that found none and have not yet given their number back. As long as these are not
so many that the word wraps, every step keeps the accounts.
-/

import Mathlib.Data.List.Perm.Basic
import Myelon.Observability.CountersFile

namespace Observability

open Interleaving

/-! ### What the calls hold -/

def Stage.held : Stage → Option Nat
  | .entered => none
  | .overshot => none
  | .refused => none
  | .holding slot => some slot

def granted (outcomes : List (Option Nat)) : List Nat := outcomes.filterMap id

/-- A label as a slot holds it, with zeros behind it. -/
def paddedLabel (label : String) : List UInt8 :=
  labelBytes label ++ (List.replicate counterLabelBytes 0).drop (labelBytes label).length

structure Describes (registration : Registration) (slot : CounterSlot) : Prop where
  id : slot.id = registration.id
  flags : slot.flags = registration.flags ||| counterFlagInUse
  label : slot.label = paddedLabel registration.label

structure CounterSlot.Same (before after : CounterSlot) : Prop where
  id : after.id = before.id
  flags : after.flags = before.flags
  label : after.label = before.label

theorem CounterSlot.Same.refl (slot : CounterSlot) : slot.Same slot := ⟨rfl, rfl, rfl⟩

theorem CounterSlot.Same.trans {first second third : CounterSlot} (same : first.Same second)
    (further : second.Same third) : first.Same third :=
  ⟨further.id.trans same.id, further.flags.trans same.flags, further.label.trans same.label⟩

theorem Describes.same {registration : Registration} {before after : CounterSlot}
    (describes : Describes registration before) (same : before.Same after) :
    Describes registration after :=
  ⟨same.id.trans describes.id, same.flags.trans describes.flags,
    same.label.trans describes.label⟩

def heldBy {Caller : Type} (underWay : List (Caller × Stage)) : List Nat :=
  underWay.filterMap fun call => call.2.held

theorem heldBy_cons {Caller : Type} (call : Caller × Stage) (rest : List (Caller × Stage)) :
    heldBy (call :: rest) = call.2.held.toList ++ heldBy rest := by
  cases holds : call.2.held with
  | none => simp [heldBy, holds]
  | some slot => simp [heldBy, holds]

theorem mem_heldBy {Caller : Type} {underWay : List (Caller × Stage)} {caller : Caller}
    {slot : Nat} (holds : (caller, .holding slot) ∈ underWay) : slot ∈ heldBy underWay :=
  List.mem_filterMap.mpr ⟨(caller, .holding slot), holds, rfl⟩

namespace World

variable {Caller : Type}

def held (world : World Caller) : List Nat :=
  granted world.outcomes ++ heldBy world.underWay

/-- The calls that have yet to give their number back. -/
def overshoots (world : World Caller) : Nat :=
  world.underWay.countP fun call => call.2 = .overshot

def TurnedAway (world : World Caller) : Prop :=
  none ∈ world.outcomes ∨
    ∃ caller, (caller, Stage.overshot) ∈ world.underWay ∨ (caller, .refused) ∈ world.underWay

end World

/-- The entry of a snapshot is about a call, of which it has everything. -/
def Reports (fromUtf8Lossy : List UInt8 → String) (requests : List Registration)
    (entry : CounterSnapshot) : Prop :=
  ∃ registration ∈ requests, entry.id = registration.id ∧
    entry.flags = registration.flags ||| counterFlagInUse ∧
    entry.label = fromUtf8Lossy ((labelBytes registration.label).takeWhile (· ≠ 0))

structure Accounted {Caller : Type} (fromUtf8Lossy : List UInt8 → String)
    (world : World Caller) : Prop where
  handedOut : world.held.Perm (List.range world.held.length)
  inBounds : world.held.length ≤ maxCounterSlots
  counted : world.slotCount.toNat = (world.held.length + world.overshoots) % 2 ^ 32
  full : world.TurnedAway → world.held.length = maxCounterSlots
  calls : world.requests.length = world.outcomes.length + world.underWay.length
  blank : ∀ slot, slot ∉ world.held → (world.slots slot).flags = 0
  described : ∀ slot, (world.slots slot).flags ≠ 0 →
    ∃ registration ∈ world.requests, Describes registration (world.slots slot)
  reported : ∀ snapshot ∈ world.snapshots, ∀ entry ∈ snapshot,
    Reports fromUtf8Lossy world.requests entry

namespace Accounted

variable {Caller : Type} {fromUtf8Lossy : List UInt8 → String} {world : World Caller}

theorem nodup (accounted : Accounted fromUtf8Lossy world) : world.held.Nodup :=
  accounted.handedOut.nodup_iff.mpr List.nodup_range

theorem below (accounted : Accounted fromUtf8Lossy world) {slot : Nat}
    (member : slot ∈ world.held) : slot < world.held.length :=
  List.mem_range.mp (accounted.handedOut.mem_iff.mp member)

theorem initial : Accounted fromUtf8Lossy (World.initial : World Caller) := by
  constructor
  · exact List.Perm.nil
  · exact Nat.zero_le _
  · rfl
  · rintro (impossible | ⟨caller, impossible | impossible⟩)
    · cases impossible
    · cases impossible
    · cases impossible
  · rfl
  · exact fun _ _ => rfl
  · exact fun slot used => absurd rfl used
  · intro snapshot impossible
    cases impossible

theorem register (accounted : Accounted fromUtf8Lossy world) (caller : Caller)
    (registration : Registration) :
    Accounted fromUtf8Lossy { world with
      requests := world.requests ++ [registration]
      underWay := (caller, .entered) :: world.underWay } := by
  have more : ∀ other ∈ world.requests, other ∈ world.requests ++ [registration] :=
    fun other member => List.mem_append_left _ member
  constructor
  · exact accounted.handedOut
  · exact accounted.inBounds
  · rw [accounted.counted]
    simp [World.overshoots, World.held, heldBy_cons, Stage.held]
  · rintro (returned | ⟨other, overshot | refused⟩)
    · exact accounted.full (.inl returned)
    · rcases List.mem_cons.mp overshot with impossible | before
      · cases impossible
      · exact accounted.full (.inr ⟨other, .inl before⟩)
    · rcases List.mem_cons.mp refused with impossible | before
      · cases impossible
      · exact accounted.full (.inr ⟨other, .inr before⟩)
  · simp only [List.length_append, List.length_cons, List.length_nil, accounted.calls]
    omega
  · exact accounted.blank
  · intro slot used
    obtain ⟨other, member, describes⟩ := accounted.described slot used
    exact ⟨other, more other member, describes⟩
  · intro snapshot member entry inside
    obtain ⟨other, asked, about⟩ := accounted.reported snapshot member entry inside
    exact ⟨other, more other asked, about⟩

theorem write (accounted : Accounted fromUtf8Lossy world) {slot : Nat}
    {change : CounterSlot → CounterSlot}
    (blank : slot ∉ world.held → (change (world.slots slot)).flags = 0)
    (described : (change (world.slots slot)).flags ≠ 0 →
      ∃ registration ∈ world.requests, Describes registration (change (world.slots slot))) :
    Accounted fromUtf8Lossy (world.write slot change) := by
  constructor
  · exact accounted.handedOut
  · exact accounted.inBounds
  · exact accounted.counted
  · exact accounted.full
  · exact accounted.calls
  · intro other free
    by_cases same : other = slot
    · subst same
      simp only [World.write, Function.update_self]
      exact blank free
    · simp only [World.write, Function.update_of_ne same]
      exact accounted.blank other free
  · intro other used
    by_cases same : other = slot
    · subst same
      simp only [World.write, Function.update_self] at used ⊢
      exact described used
    · simp only [World.write, Function.update_of_ne same] at used ⊢
      exact accounted.described other used
  · exact accounted.reported

theorem report (accounted : Accounted fromUtf8Lossy world) {snapshot : List CounterSnapshot}
    (about : ∀ entry ∈ snapshot, Reports fromUtf8Lossy world.requests entry) :
    Accounted fromUtf8Lossy { world with snapshots := world.snapshots ++ [snapshot] } := by
  constructor
  · exact accounted.handedOut
  · exact accounted.inBounds
  · exact accounted.counted
  · exact accounted.full
  · exact accounted.calls
  · exact accounted.blank
  · exact accounted.described
  · intro other member
    rcases List.mem_append.mp member with before | new
    · exact accounted.reported other before
    · cases List.mem_singleton.mp new
      exact about

variable [DecidableEq Caller]

theorem held_split {caller : Caller} {stage : Stage}
    (member : (caller, stage) ∈ world.underWay) :
    world.held.Perm (stage.held.toList ++
      (granted world.outcomes ++ heldBy (world.underWay.erase (caller, stage)))) := by
  have calls := (List.perm_cons_erase member).filterMap fun call => call.2.held
  change (heldBy world.underWay).Perm (heldBy (_ :: _)) at calls
  rw [heldBy_cons] at calls
  exact (calls.append_left _).trans (List.perm_append_comm_assoc _ _ _)

theorem held_proceed (world : World Caller) (caller : Caller) (before after : Stage) :
    (world.proceed caller before after).held.Perm (after.held.toList ++
      (granted world.outcomes ++ heldBy (world.underWay.erase (caller, before)))) := by
  unfold World.held World.proceed
  rw [heldBy_cons]
  exact List.perm_append_comm_assoc _ _ _

theorem overshoots_split {caller : Caller} {stage : Stage}
    (member : (caller, stage) ∈ world.underWay) :
    world.overshoots = (world.underWay.erase (caller, stage)).countP
      (fun call => call.2 = .overshot) + if stage = .overshot then 1 else 0 := by
  unfold World.overshoots
  rw [(List.perm_cons_erase member).countP_eq, List.countP_cons]
  simp only [decide_eq_true_eq]

theorem overshoots_proceed (world : World Caller) (caller : Caller) (before after : Stage) :
    (world.proceed caller before after).overshoots =
      (world.underWay.erase (caller, before)).countP (fun call => call.2 = .overshot) +
        if after = .overshot then 1 else 0 := by
  unfold World.overshoots World.proceed
  rw [List.countP_cons]
  simp only [decide_eq_true_eq]

theorem holder_unique (accounted : Accounted fromUtf8Lossy world) {caller other : Caller}
    {slot : Nat} (holds : (caller, .holding slot) ∈ world.underWay)
    (holdsToo : (other, .holding slot) ∈ world.underWay) : other = caller := by
  by_contra different
  have elsewhere : (other, Stage.holding slot) ∈ world.underWay.erase (caller, .holding slot) := by
    apply (List.mem_erase_of_ne _).mpr holdsToo
    intro same
    cases same
    exact different rfl
  have apart := (held_split holds).nodup_iff.mp accounted.nodup
  rw [Stage.held, Option.toList_some, List.singleton_append, List.nodup_cons] at apart
  exact apart.1 (List.mem_append_right _ (mem_heldBy elsewhere))

omit [DecidableEq Caller] in
theorem held_of_holding {caller : Caller} {slot : Nat}
    (holds : (caller, .holding slot) ∈ world.underWay) : slot ∈ world.held :=
  List.mem_append_right _ (mem_heldBy holds)

theorem calls_proceed (accounted : Accounted fromUtf8Lossy world) {caller : Caller}
    {before : Stage} (member : (caller, before) ∈ world.underWay) (after : Stage) :
    (world.proceed caller before after).requests.length =
      (world.proceed caller before after).outcomes.length +
        (world.proceed caller before after).underWay.length := by
  have positive : 0 < world.underWay.length := List.length_pos_of_mem member
  have calls := accounted.calls
  simp only [World.proceed, List.length_cons, List.length_erase_of_mem member]
  omega

omit [DecidableEq Caller] in
theorem turnedAway_of_overshoots (some : 0 < world.overshoots) : world.TurnedAway := by
  obtain ⟨⟨caller, stage⟩, member, overshot⟩ := List.countP_pos_iff.mp some
  cases of_decide_eq_true overshot
  exact .inr ⟨caller, .inl member⟩

theorem turnedAway_proceed {caller : Caller} {before after : Stage}
    (turned : (world.proceed caller before after).TurnedAway) :
    world.TurnedAway ∨ after = .overshot ∨ after = .refused := by
  rcases turned with returned | ⟨other, overshot | refused⟩
  · exact .inl (.inl returned)
  · rcases List.mem_cons.mp overshot with same | before
    · cases same
      exact .inr (.inl rfl)
    · exact .inl (.inr ⟨other, .inl (List.mem_of_mem_erase before)⟩)
  · rcases List.mem_cons.mp refused with same | before
    · cases same
      exact .inr (.inr rfl)
    · exact .inl (.inr ⟨other, .inr (List.mem_of_mem_erase before)⟩)

omit [DecidableEq Caller] in
/-- As long as few calls have overshot, the word has not wrapped. -/
theorem counted_exactly (accounted : Accounted fromUtf8Lossy world)
    (few : world.overshoots < 2 ^ 32 - maxCounterSlots) :
    world.slotCount.toNat = world.held.length + world.overshoots := by
  have bounded := accounted.inBounds
  rw [accounted.counted, Nat.mod_eq_of_lt]
  unfold maxCounterSlots at few bounded
  omega

omit [DecidableEq Caller] in
theorem fresh (accounted : Accounted fromUtf8Lossy world)
    (few : world.overshoots < 2 ^ 32 - maxCounterSlots) :
    (world.slots world.slotCount.toNat).flags = 0 := by
  have exactly := accounted.counted_exactly few
  apply accounted.blank
  intro held
  have below := accounted.below held
  omega

omit [DecidableEq Caller] in
theorem further (accounted : Accounted fromUtf8Lossy world) {after : World Caller}
    (slots : after.slots = world.slots) (requests : after.requests = world.requests)
    (snapshots : after.snapshots = world.snapshots) (kept : ∀ slot ∈ world.held, slot ∈ after.held)
    (handedOut : after.held.Perm (List.range after.held.length))
    (inBounds : after.held.length ≤ maxCounterSlots)
    (counted : after.slotCount.toNat = (after.held.length + after.overshoots) % 2 ^ 32)
    (full : after.TurnedAway → after.held.length = maxCounterSlots)
    (calls : after.requests.length = after.outcomes.length + after.underWay.length) :
    Accounted fromUtf8Lossy after := by
  constructor
  · exact handedOut
  · exact inBounds
  · exact counted
  · exact full
  · exact calls
  · intro slot unheld
    rw [slots]
    exact accounted.blank slot (fun held => unheld (kept slot held))
  · rw [slots, requests]
    exact accounted.described
  · rw [snapshots, requests]
    exact accounted.reported

omit [DecidableEq Caller] in
theorem further_same (accounted : Accounted fromUtf8Lossy world) {after : World Caller}
    (slots : after.slots = world.slots) (requests : after.requests = world.requests)
    (snapshots : after.snapshots = world.snapshots) (same : after.held.Perm world.held)
    (counted : after.slotCount.toNat = (world.held.length + after.overshoots) % 2 ^ 32)
    (full : after.TurnedAway → world.held.length = maxCounterSlots)
    (calls : after.requests.length = after.outcomes.length + after.underWay.length) :
    Accounted fromUtf8Lossy after := by
  apply accounted.further slots requests snapshots
  · exact fun slot held => same.mem_iff.mpr held
  · rw [same.length_eq]
    exact same.trans accounted.handedOut
  · rw [same.length_eq]
    exact accounted.inBounds
  · rw [same.length_eq]
    exact counted
  · rw [same.length_eq]
    exact full
  · exact calls

/-- A call takes the next number: a slot that nobody has had, or one too many. -/
theorem reserve (accounted : Accounted fromUtf8Lossy world) {caller : Caller}
    (entered : (caller, .entered) ∈ world.underWay)
    (few : world.overshoots < 2 ^ 32 - maxCounterSlots) :
    Accounted fromUtf8Lossy
      { world.proceed caller .entered (.ofIndex world.slotCount.toNat) with
        slotCount := world.slotCount + 1 } := by
  have exactly := accounted.counted_exactly few
  have before := held_split entered
  have after := held_proceed world caller .entered (.ofIndex world.slotCount.toNat)
  have overshotBefore := overshoots_split entered
  have overshotAfter := overshoots_proceed world caller .entered (.ofIndex world.slotCount.toNat)
  have countedUp : (world.slotCount + 1).toNat = (world.slotCount.toNat + 1) % 2 ^ 32 :=
    UInt32.toNat_add _ _
  have calls := accounted.calls_proceed entered (.ofIndex world.slotCount.toNat)
  rw [Stage.held, Option.toList_none, List.nil_append] at before
  rw [if_neg (by decide), Nat.add_zero] at overshotBefore
  by_cases free : world.slotCount.toNat < maxCounterSlots
  · -- nobody has overshot yet, so the number is that of the first free slot
    have none : world.overshoots = 0 := by
      by_contra positive
      have full := accounted.full (turnedAway_of_overshoots (Nat.pos_of_ne_zero positive))
      omega
    have next : world.slotCount.toNat = world.held.length := by
      omega
    have stage : Stage.ofIndex world.slotCount.toNat = .holding world.held.length := by
      rw [Stage.ofIndex, if_pos free, next]
    rw [stage] at after overshotAfter calls ⊢
    rw [if_neg Stage.noConfusion, Nat.add_zero, ← overshotBefore] at overshotAfter
    rw [Stage.held, Option.toList_some, List.singleton_append] at after
    have taken : (world.proceed caller .entered (.holding world.held.length)).held.Perm
        (world.held.length :: world.held) :=
      after.trans (before.symm.cons _)
    have more := taken.length_eq
    rw [List.length_cons] at more
    apply accounted.further
    · rfl
    · rfl
    · rfl
    · exact fun slot held => taken.mem_iff.mpr (List.mem_cons_of_mem _ held)
    · change (world.proceed _ _ _).held.Perm (List.range (world.proceed _ _ _).held.length)
      rw [more, List.range_succ]
      exact (taken.trans (accounted.handedOut.cons _)).trans
        (List.perm_append_singleton _ _).symm
    · change (world.proceed _ _ _).held.length ≤ maxCounterSlots
      omega
    · change (world.slotCount + 1).toNat =
        ((world.proceed _ _ _).held.length + (world.proceed _ _ _).overshoots) % 2 ^ 32
      rw [countedUp, more, overshotAfter, none, next]
    · intro turned
      rcases @turnedAway_proceed _ world _ _ _ _ turned with old | impossible | impossible
      · have full := accounted.full old
        omega
      · cases impossible
      · cases impossible
    · exact calls
  · -- all slots are taken
    have stage : Stage.ofIndex world.slotCount.toNat = .overshot := by
      rw [Stage.ofIndex, if_neg free]
    have full : world.held.length = maxCounterSlots := by
      have bounded := accounted.inBounds
      by_cases positive : 0 < world.overshoots
      · exact accounted.full (turnedAway_of_overshoots positive)
      · omega
    rw [stage] at after overshotAfter calls ⊢
    rw [if_pos rfl, ← overshotBefore] at overshotAfter
    rw [Stage.held, Option.toList_none, List.nil_append] at after
    apply accounted.further_same
    · rfl
    · rfl
    · rfl
    · exact after.trans before.symm
    · change (world.slotCount + 1).toNat =
        (world.held.length + (world.proceed _ _ _).overshoots) % 2 ^ 32
      rw [countedUp, overshotAfter, exactly, Nat.add_assoc]
    · exact fun _turned => full
    · exact calls

/-- A call that has overshot gives its number back. -/
theorem rollBack (accounted : Accounted fromUtf8Lossy world) {caller : Caller}
    (overshot : (caller, .overshot) ∈ world.underWay) :
    Accounted fromUtf8Lossy
      { world.proceed caller .overshot .refused with slotCount := world.slotCount - 1 } := by
  have before := held_split overshot
  have after := held_proceed world caller .overshot .refused
  have overshotBefore := overshoots_split overshot
  have overshotAfter := overshoots_proceed world caller .overshot .refused
  have countedDown : (world.slotCount - 1).toNat = (2 ^ 32 - 1 + world.slotCount.toNat) % 2 ^ 32 :=
    UInt32.toNat_sub _ _
  rw [if_pos rfl] at overshotBefore
  rw [if_neg (by decide), Nat.add_zero] at overshotAfter
  apply accounted.further_same
  · rfl
  · rfl
  · rfl
  · exact after.trans before.symm
  · change (world.slotCount - 1).toNat =
      (world.held.length + (world.proceed _ _ _).overshoots) % 2 ^ 32
    rw [countedDown, overshotAfter, accounted.counted, overshotBefore]
    omega
  · exact fun _turned => accounted.full (.inr ⟨caller, .inl overshot⟩)
  · exact accounted.calls_proceed overshot .refused

theorem hand (accounted : Accounted fromUtf8Lossy world) {caller : Caller}
    {outcome : Option Nat}
    (ready : (caller, outcome.elim .refused .holding) ∈ world.underWay) :
    Accounted fromUtf8Lossy { world with
      outcomes := world.outcomes ++ [outcome]
      underWay := world.underWay.erase (caller, outcome.elim .refused .holding) } := by
  have before := held_split ready
  have overshotBefore := overshoots_split ready
  have positive : 0 < world.underWay.length := List.length_pos_of_mem ready
  have calls := accounted.calls
  have rest : granted (world.outcomes ++ [outcome]) = granted world.outcomes ++ outcome.toList := by
    cases outcome <;> simp [granted]
  have stage : (outcome.elim Stage.refused Stage.holding).held = outcome := by
    cases outcome <;> rfl
  have counts : outcome.elim Stage.refused Stage.holding ≠ .overshot := by
    cases outcome <;> exact Stage.noConfusion
  rw [if_neg counts, Nat.add_zero] at overshotBefore
  rw [stage] at before
  apply accounted.further_same
  · rfl
  · rfl
  · rfl
  · change (granted (world.outcomes ++ [outcome]) ++ heldBy _).Perm world.held
    rw [rest, List.append_assoc]
    exact (List.perm_append_comm_assoc _ _ _).trans before.symm
  · rw [accounted.counted, overshotBefore]
    rfl
  · intro turned
    apply accounted.full
    rcases turned with returned | ⟨other, under⟩
    · rcases List.mem_append.mp returned with old | new
      · exact .inl old
      · cases List.mem_singleton.mp new
        exact .inr ⟨caller, .inr ready⟩
    · exact .inr ⟨other, under.imp List.mem_of_mem_erase List.mem_of_mem_erase⟩
  · simp only [List.length_append, List.length_singleton, List.length_erase_of_mem ready]
    omega

end Accounted

end Observability
