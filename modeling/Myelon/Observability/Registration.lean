/-
The slots of a counters file are handed out once.

Every caller moves only its own calls and fills only the slot it holds, so the accounts
hold in every interleaving. Snapshots read what is published, and nobody changes that.
-/

import Myelon.Interleaving.RelyGuarantee
import Myelon.Interleaving.Sequential
import Myelon.Observability.Accounts

namespace Observability

open Interleaving

variable {Caller : Type}

/-! ### What the callers rely on -/

/-- What a caller can count on while others move: they leave its calls alone, and the slot it
holds, and every slot that is published. -/
structure Others (caller : Caller) (before after : World Caller) : Prop where
  underWay : ∀ stage, (caller, stage) ∈ before.underWay → (caller, stage) ∈ after.underWay
  mine : ∀ slot, (caller, .holding slot) ∈ before.underWay →
    (before.slots slot).Same (after.slots slot)
  published : ∀ slot, (before.slots slot).flags ≠ 0 → (before.slots slot).Same (after.slots slot)
  requests : ∀ registration ∈ before.requests, registration ∈ after.requests

namespace Others

variable {caller : Caller}

theorem refl (world : World Caller) : Others caller world world :=
  ⟨fun _ member => member, fun _ _ => .refl _, fun _ _ => .refl _, fun _ member => member⟩

theorem trans {first second third : World Caller} (relied : Others caller first second)
    (further : Others caller second third) : Others caller first third := by
  constructor
  · exact fun stage member => further.underWay stage (relied.underWay stage member)
  · intro slot member
    exact (relied.mine slot member).trans (further.mine slot (relied.underWay _ member))
  · intro slot used
    have same := relied.published slot used
    exact same.trans (further.published slot (by rw [same.flags]; exact used))
  · exact fun registration member => further.requests registration
      (relied.requests registration member)

theorem of_slots {before after : World Caller} (slots : after.slots = before.slots)
    (underWay : ∀ stage, (caller, stage) ∈ before.underWay → (caller, stage) ∈ after.underWay)
    (requests : ∀ registration ∈ before.requests, registration ∈ after.requests) :
    Others caller before after := by
  constructor
  · exact underWay
  · intro slot _member
    rw [slots]
    exact .refl _
  · intro slot _used
    rw [slots]
    exact .refl _
  · exact requests

theorem write {world : World Caller} {slot : Nat} {change : CounterSlot → CounterSlot}
    (elsewhere : (caller, .holding slot) ∉ world.underWay) (unused : (world.slots slot).flags = 0) :
    Others caller world (world.write slot change) := by
  have others : ∀ other, other ≠ slot →
      (world.slots other).Same ((world.write slot change).slots other) := by
    intro other different
    simp only [World.write, Function.update_of_ne different]
    exact .refl _
  constructor
  · exact fun _ member => member
  · intro other member
    exact others other (fun same => elsewhere (same ▸ member))
  · intro other used
    exact others other (fun same => used (same ▸ unused))
  · exact fun _ member => member

theorem count {world : World Caller} {slot : Nat} {change : CounterSlot → CounterSlot}
    (same : ∀ before : CounterSlot, before.Same (change before)) :
    Others caller world (world.write slot change) := by
  have all : ∀ other, (world.slots other).Same ((world.write slot change).slots other) := by
    intro other
    by_cases equal : other = slot
    · subst equal
      simp only [World.write, Function.update_self]
      exact same _
    · simp only [World.write, Function.update_of_ne equal]
      exact .refl _
  exact ⟨fun _ member => member, fun other _ => all other, fun other _ => all other,
    fun _ member => member⟩

theorem proceed [DecidableEq Caller] {world : World Caller} {other : Caller}
    (different : other ≠ caller) (before after : Stage) :
    Others other world (world.proceed caller before after) := by
  apply of_slots
  · rfl
  · intro stage member
    apply List.mem_cons_of_mem
    exact (List.mem_erase_of_ne (fun same => different (congrArg Prod.fst same))).mpr member
  · exact fun _ member => member

end Others

/-! ### What the callers guarantee -/

def Fills (caller : Caller) (slot : Nat) (world : World Caller) : Prop :=
  (caller, .holding slot) ∈ world.underWay ∧ (world.slots slot).flags = 0

variable (fromUtf8Lossy : List UInt8 → String)

def Guarantees (caller : Caller) : Action Caller → World Caller → Prop
  | .nextRequest asking, _ => asking = caller
  | .fetchAddSlotCount asking, world => asking = caller ∧ (caller, .entered) ∈ world.underWay
  | .fetchSubSlotCount asking, world => asking = caller ∧ (caller, .overshot) ∈ world.underWay
  | .writeId slot _, world => Fills caller slot world
  | .fillLabel slot, world => Fills caller slot world
  | .copyLabel slot _, world => Fills caller slot world
  | .storeFlags slot flags, world =>
      Fills caller slot world ∧ ∃ registration ∈ world.requests,
        Describes registration { world.slots slot with flags }
  | .returned asking outcome, world =>
      asking = caller ∧ (caller, outcome.elim .refused .holding) ∈ world.underWay
  | .reported snapshot, world => ∀ entry ∈ snapshot, Reports fromUtf8Lossy world.requests entry
  | _, _ => True

/-- The calls that have overshot are so few that the word does not wrap. -/
def FewOvershoots : Action Caller → World Caller → Prop
  | .fetchAddSlotCount _, world => world.overshoots < 2 ^ 32 - maxCounterSlots
  | _, _ => True

instance [DecidableEq Caller] (action : Action Caller) (world : World Caller) :
    Decidable (FewOvershoots action world) := by
  unfold FewOvershoots
  split <;> infer_instance

section Registry

variable [DecidableEq Caller] {fromUtf8Lossy}

theorem performed_accounted {caller : Caller} {action : Action Caller} {request : Request}
    {world after : World Caller} {result : action.Result}
    (accounted : Accounted fromUtf8Lossy world) (few : FewOvershoots action world)
    (guaranteed : Guarantees fromUtf8Lossy caller action world)
    (performed : perform action request world = some (result, after)) :
    Accounted fromUtf8Lossy after ∧ ∀ other, other ≠ caller → Others other world after := by
  have filled : ∀ {slot : Nat} {change : CounterSlot → CounterSlot}, Fills caller slot world →
      ((change (world.slots slot)).flags ≠ 0 → ∃ registration ∈ world.requests,
        Describes registration (change (world.slots slot))) →
      Accounted fromUtf8Lossy (world.write slot change) ∧
        ∀ other, other ≠ caller → Others other world (world.write slot change) := by
    intro slot change fills described
    constructor
    · apply accounted.write
      · exact fun unheld => absurd (Accounted.held_of_holding fills.1) unheld
      · exact described
    · intro other different
      apply Others.write
      · exact fun holdsToo => different (accounted.holder_unique fills.1 holdsToo)
      · exact fills.2
  have quiet : after = world →
      Accounted fromUtf8Lossy after ∧ ∀ other, other ≠ caller → Others other world after := by
    rintro rfl
    exact ⟨accounted, fun _ _ => .refl _⟩
  cases action with
  | nextRequest asking =>
      cases guaranteed
      cases request with
      | register registration =>
          cases performed
          constructor
          · exact accounted.register caller registration
          · intro other _different
            apply Others.of_slots
            · rfl
            · exact fun stage member => List.mem_cons_of_mem _ member
            · exact fun earlier member => List.mem_append_left _ member
      | snapshot =>
          cases performed
          exact quiet rfl
      | add counter amount =>
          cases performed
          exact quiet rfl
  | fetchAddSlotCount asking =>
      obtain ⟨rfl, entered⟩ := guaranteed
      cases performed
      exact ⟨accounted.reserve entered few, fun other different =>
        (Others.proceed different .entered _).trans (.of_slots rfl (fun _ member => member)
          (fun _ member => member))⟩
  | fetchSubSlotCount asking =>
      obtain ⟨rfl, overshot⟩ := guaranteed
      cases performed
      exact ⟨accounted.rollBack overshot, fun other different =>
        (Others.proceed different .overshot .refused).trans (.of_slots rfl
          (fun _ member => member) (fun _ member => member))⟩
  | writeId slot id =>
      cases performed
      exact filled guaranteed (fun used => absurd guaranteed.2 used)
  | fillLabel slot =>
      cases performed
      exact filled guaranteed (fun used => absurd guaranteed.2 used)
  | copyLabel slot bytes =>
      cases performed
      exact filled guaranteed (fun used => absurd guaranteed.2 used)
  | storeFlags slot flags =>
      cases performed
      exact filled guaranteed.1 (fun _used => guaranteed.2)
  | fetchAddValue slot amount =>
      cases performed
      constructor
      · apply accounted.write
        · exact accounted.blank slot
        · intro used
          obtain ⟨registration, asked, describes⟩ := accounted.described slot used
          exact ⟨registration, asked, describes.same ⟨rfl, rfl, rfl⟩⟩
      · exact fun other _different => Others.count (fun _ => ⟨rfl, rfl, rfl⟩)
  | returned asking outcome =>
      obtain ⟨rfl, ready⟩ := guaranteed
      cases performed
      constructor
      · exact accounted.hand ready
      · intro other different
        apply Others.of_slots
        · rfl
        · intro stage member
          exact (List.mem_erase_of_ne (fun same =>
            different (congrArg Prod.fst same))).mpr member
        · exact fun _ member => member
  | reported snapshot =>
      cases performed
      exact ⟨accounted.report guaranteed, fun other _different =>
        .of_slots rfl (fun _ member => member) (fun _ member => member)⟩
  | loadSlotCount =>
      cases performed
      exact quiet rfl
  | loadFlags slot =>
      cases performed
      exact quiet rfl
  | readId slot =>
      cases performed
      exact quiet rfl
  | readLabel slot =>
      cases performed
      exact quiet rfl
  | loadValue slot =>
      cases performed
      exact quiet rfl

def registry (fromUtf8Lossy : List UInt8 → String) : Contract (countersFile Caller) where
  condition := fun _ _ action world => FewOvershoots action world
  guarantee := fun caller _ action world => Guarantees fromUtf8Lossy caller action world
  invariant := Accounted fromUtf8Lossy
  rely := Others
  relyRefl := fun _ world => .refl world
  relyTrans := Others.trans
  performed := fun accounted few guaranteed performed =>
    performed_accounted accounted few guaranteed performed
  restarted := fun _ restarted => nomatch restarted

variable {caller : Caller} {pre : List Nat → World Caller → Prop}

theorem act_triple {action : Action Caller} {post : action.Result → List Nat → World Caller → Prop}
    (stable : ∀ self before after, Others caller before after → pre self before → pre self after)
    (guaranteed : ∀ self world, pre self world → Guarantees fromUtf8Lossy caller action world)
    (outcome : ∀ self world oracle result after, Accounted fromUtf8Lossy world →
      FewOvershoots action world → pre self world →
      perform action oracle world = some (result, after) → post result self after) :
    (registry fromUtf8Lossy).Triple caller pre (act action) post := by
  apply Contract.Triple.perform
  intro self world before held relied accounted few
  have kept := stable self world before relied held
  exact ⟨guaranteed self before kept, fun oracle result after performed =>
    outcome self before oracle result after accounted few kept performed⟩

/-! ### A call of `register` -/

omit [DecidableEq Caller] in
theorem Fills.stable {slot : Nat} {before after : World Caller}
    (relied : Others caller before after) (fills : Fills caller slot before) :
    Fills caller slot after :=
  ⟨relied.underWay _ fills.1, by rw [(relied.mine slot fills.1).flags]; exact fills.2⟩

structure Filling (caller : Caller) (registration : Registration) (slot : Nat)
    (filled : CounterSlot → Prop) (world : World Caller) : Prop where
  asked : registration ∈ world.requests
  fills : Fills caller slot world
  filled : filled (world.slots slot)

omit [DecidableEq Caller] in
theorem Filling.stable {registration : Registration} {slot : Nat} {filled : CounterSlot → Prop}
    (same : ∀ before after : CounterSlot, before.Same after → filled before → filled after)
    {before after : World Caller} (relied : Others caller before after)
    (filling : Filling caller registration slot filled before) :
    Filling caller registration slot filled after :=
  ⟨relied.requests _ filling.asked, filling.fills.stable relied,
    same _ _ (relied.mine slot filling.fills.1) filling.filled⟩

theorem fill_triple {registration : Registration} {slot : Nat} {action : Action Caller}
    {filled further : CounterSlot → Prop} (change : CounterSlot → CounterSlot)
    (same : ∀ before after : CounterSlot, before.Same after → filled before → filled after)
    (allowed : ∀ world, Fills caller slot world → Guarantees fromUtf8Lossy caller action world)
    (writes : ∀ oracle world result after, perform action oracle world = some (result, after) →
      after = world.write slot change)
    (unpublished : ∀ before, (change before).flags = before.flags)
    (step : ∀ before, filled before → further (change before)) :
    (registry fromUtf8Lossy).Triple caller
      (fun _ => Filling caller registration slot filled) (act action)
      (fun _ _ => Filling caller registration slot further) := by
  apply act_triple
  · exact fun _ _ _ relied filling => filling.stable same relied
  · exact fun _ world filling => allowed world filling.fills
  · intro self world oracle result after accounted _few filling performed
    rw [writes oracle world result after performed]
    have written : (world.write slot change).slots slot = change (world.slots slot) := by
      simp only [World.write, Function.update_self]
    constructor
    · exact filling.asked
    · constructor
      · exact filling.fills.1
      · rw [written, unpublished]
        exact filling.fills.2
    · rw [written]
      exact step _ filling.filled

theorem register_triple (registration : Registration) :
    (registry fromUtf8Lossy).Triple caller
      (fun _ world => (caller, .entered) ∈ world.underWay ∧ registration ∈ world.requests)
      (register caller registration)
      (fun outcome _ world => (caller, outcome.elim .refused .holding) ∈ world.underWay) := by
  have reserved : (registry fromUtf8Lossy).Triple caller
      (fun _ world => (caller, .entered) ∈ world.underWay ∧ registration ∈ world.requests)
      (act (.fetchAddSlotCount caller))
      (fun (index : UInt32) _ world =>
        (index.toNat < maxCounterSlots →
          Filling caller registration index.toNat (fun _ => True) world) ∧
        (¬ index.toNat < maxCounterSlots → (caller, .overshot) ∈ world.underWay)) := by
    apply act_triple
    · exact fun _ _ _ relied held => ⟨relied.underWay _ held.1, relied.requests _ held.2⟩
    · exact fun _ _ held => ⟨rfl, held.1⟩
    · intro self world oracle result after accounted few held performed
      cases performed
      constructor
      · intro free
        constructor
        · exact held.2
        · constructor
          · change (caller, Stage.holding _) ∈ (caller, Stage.ofIndex _) :: _
            rw [Stage.ofIndex, if_pos free]
            exact List.mem_cons_self
          · exact accounted.fresh few
        · trivial
      · intro taken
        change (caller, Stage.overshot) ∈ (caller, Stage.ofIndex _) :: _
        rw [Stage.ofIndex, if_neg taken]
        exact List.mem_cons_self
  have writesId : ∀ slot, (registry fromUtf8Lossy).Triple caller
      (fun _ => Filling caller registration slot (fun _ => True))
      (act (.writeId slot registration.id))
      (fun _ _ =>
        Filling caller registration slot (fun filled => filled.id = registration.id)) := by
    intro slot
    apply fill_triple (fun before => { before with id := registration.id })
    · exact fun _ _ _ _ => trivial
    · exact fun _ fills => fills
    · intro oracle world result after performed
      cases performed
      rfl
    · exact fun _ => rfl
    · exact fun _ _ => rfl
  have fillsLabel : ∀ slot, (registry fromUtf8Lossy).Triple caller
      (fun _ => Filling caller registration slot (fun filled => filled.id = registration.id))
      (act (.fillLabel slot))
      (fun _ _ => Filling caller registration slot (fun filled => filled.id = registration.id ∧
        filled.label = List.replicate counterLabelBytes 0)) := by
    intro slot
    apply fill_triple (fun before =>
      { before with label := List.replicate counterLabelBytes 0 })
    · exact fun _ _ same id => same.id.trans id
    · exact fun _ fills => fills
    · intro oracle world result after performed
      cases performed
      rfl
    · exact fun _ => rfl
    · exact fun _ id => ⟨id, rfl⟩
  have copiesLabel : ∀ slot, (registry fromUtf8Lossy).Triple caller
      (fun _ => Filling caller registration slot (fun filled => filled.id = registration.id ∧
        filled.label = List.replicate counterLabelBytes 0))
      (act (.copyLabel slot (labelBytes registration.label)))
      (fun _ _ => Filling caller registration slot (fun filled => filled.id = registration.id ∧
        filled.label = paddedLabel registration.label)) := by
    intro slot
    apply fill_triple (fun before =>
      { before with
        label := labelBytes registration.label ++
          before.label.drop (labelBytes registration.label).length })
    · exact fun _ _ same filled => ⟨same.id.trans filled.1, same.label.trans filled.2⟩
    · exact fun _ fills => fills
    · intro oracle world result after performed
      cases performed
      rfl
    · exact fun _ => rfl
    · intro before filled
      exact ⟨filled.1, by rw [filled.2, paddedLabel]⟩
  have publishes : ∀ slot, (registry fromUtf8Lossy).Triple caller
      (fun _ => Filling caller registration slot (fun filled => filled.id = registration.id ∧
        filled.label = paddedLabel registration.label))
      (act (.storeFlags slot (registration.flags ||| counterFlagInUse)))
      (fun _ _ world => (caller, .holding slot) ∈ world.underWay) := by
    intro slot
    apply act_triple
    · intro _ before after relied filling
      exact filling.stable (fun _ _ same filled =>
        ⟨same.id.trans filled.1, same.label.trans filled.2⟩) relied
    · exact fun _ world filling => ⟨filling.fills, registration, filling.asked,
        ⟨filling.filled.1, rfl, filling.filled.2⟩⟩
    · intro self world oracle result after accounted _few filling performed
      cases performed
      exact filling.fills.1
  have rollsBack : (registry fromUtf8Lossy).Triple caller
      (fun _ world => (caller, .overshot) ∈ world.underWay) (act (.fetchSubSlotCount caller))
      (fun _ _ world => (caller, .refused) ∈ world.underWay) := by
    apply act_triple
    · exact fun _ _ _ relied overshot => relied.underWay _ overshot
    · exact fun _ _ overshot => ⟨rfl, overshot⟩
    · intro self world oracle result after accounted _few _overshot performed
      cases performed
      exact List.mem_cons_self
  apply Contract.Triple.bind reserved
  intro index
  by_cases free : index.toNat < maxCounterSlots
  · rw [if_neg (Nat.not_le_of_lt free)]
    apply Contract.Triple.bind ((writesId index.toNat).strengthen (fun _ _ held => held.1 free))
    intro _
    apply Contract.Triple.bind (fillsLabel index.toNat)
    intro _
    apply Contract.Triple.bind (copiesLabel index.toNat)
    intro _
    apply Contract.Triple.bind (publishes index.toNat)
    intro _
    exact Contract.Triple.pure _ (fun _ _ holds => holds)
  · rw [if_pos (Nat.le_of_not_lt free)]
    apply Contract.Triple.bind (rollsBack.strengthen (fun _ _ held => held.2 free))
    intro _
    exact Contract.Triple.pure _ (fun _ _ refused => refused)

/-! ### A snapshot -/

theorem take_findIdx {label : List UInt8} {bound : Nat} (fits : label.length ≤ bound) :
    label.take ((label.findIdx? (· == 0)).getD bound) = label.takeWhile (· ≠ 0) := by
  induction label generalizing bound with
  | nil => simp
  | cons byte rest ih =>
      cases bound with
      | zero => cases fits
      | succ bound =>
          have later := ih (Nat.le_of_succ_le_succ fits)
          by_cases zero : byte = 0
          · simp [zero, List.findIdx?_cons]
          · have position : ((byte :: rest).findIdx? (· == 0)).getD (bound + 1) =
                (rest.findIdx? (· == 0)).getD bound + 1 := by
              rw [List.findIdx?_cons, if_neg (by simpa using zero)]
              cases rest.findIdx? (· == 0) <;> rfl
            rw [position, List.take_succ_cons, later,
              List.takeWhile_cons_of_pos (by simpa using zero)]

theorem labelBytes_fit (label : String) : (labelBytes label).length ≤ counterLabelBytes :=
  List.length_take_le _ _

theorem text_of_padded (label : String) :
    (paddedLabel label).take (labelLength (paddedLabel label)) =
      (labelBytes label).takeWhile (· ≠ 0) := by
  have fits := labelBytes_fit label
  unfold labelLength
  rw [take_findIdx]
  · unfold paddedLabel
    rw [List.drop_replicate, List.takeWhile_append]
    split
    · rename_i whole
      have zeros : ∀ count, (List.replicate count (0 : UInt8)).takeWhile (· ≠ 0) = [] := by
        intro count
        cases count <;> simp [List.replicate_succ]
      have same := (List.takeWhile_prefix (p := fun byte => decide (byte ≠ 0))).eq_of_length whole
      rw [zeros, List.append_nil, same]
    · rfl
  · simp only [paddedLabel, List.length_append, List.length_drop, List.length_replicate]
    omega

theorem Reports.more {requests more : List Registration} {entry : CounterSnapshot}
    (grows : ∀ registration ∈ requests, registration ∈ more)
    (reports : Reports fromUtf8Lossy requests entry) : Reports fromUtf8Lossy more entry := by
  obtain ⟨registration, asked, about⟩ := reports
  exact ⟨registration, grows registration asked, about⟩

/-- What a snapshot has so far, and the slot it is at: it is published for a call. -/
structure Reading (fromUtf8Lossy : List UInt8 → String) (out : List CounterSnapshot) (slot : Nat)
    (registration : Registration) (world : World Caller) : Prop where
  reports : ∀ entry ∈ out, Reports fromUtf8Lossy world.requests entry
  asked : registration ∈ world.requests
  used : (world.slots slot).flags ≠ 0
  describes : Describes registration (world.slots slot)

omit [DecidableEq Caller] in
theorem Reading.stable {out : List CounterSnapshot} {slot : Nat} {registration : Registration}
    {before after : World Caller} (relied : Others caller before after)
    (reading : Reading fromUtf8Lossy out slot registration before) :
    Reading fromUtf8Lossy out slot registration after := by
  have same := relied.published slot reading.used
  constructor
  · exact fun entry member => (reading.reports entry member).more relied.requests
  · exact relied.requests _ reading.asked
  · rw [same.flags]
    exact reading.used
  · exact reading.describes.same same

theorem read_triple {out : List CounterSnapshot} {slot : Nat} {registration : Registration}
    {action : Action Caller} {fact : action.Result → Prop}
    (quiet : ∀ world, Guarantees fromUtf8Lossy caller action world)
    (reads : ∀ oracle (world after : World Caller) result,
      Describes registration (world.slots slot) →
      perform action oracle world = some (result, after) → after = world ∧ fact result) :
    (registry fromUtf8Lossy).Triple caller
      (fun _ => Reading fromUtf8Lossy out slot registration) (act action)
      (fun result _ world => fact result ∧ Reading fromUtf8Lossy out slot registration world) := by
  apply act_triple
  · exact fun _ _ _ relied reading => reading.stable relied
  · exact fun _ world _reading => quiet world
  · intro self world oracle result after accounted _few reading performed
    obtain ⟨rfl, told⟩ := reads oracle world after result reading.describes performed
    exact ⟨told, reading⟩

theorem snapshotSlot_triple (out : List CounterSnapshot) (slot : Nat) :
    (registry fromUtf8Lossy).Triple caller
      (fun _ (world : World Caller) => ∀ entry ∈ out, Reports fromUtf8Lossy world.requests entry)
      (snapshotSlot fromUtf8Lossy out slot)
      (fun further _ world => ∀ entry ∈ further, Reports fromUtf8Lossy world.requests entry) := by
  have loads : (registry fromUtf8Lossy).Triple caller
      (fun _ (world : World Caller) => ∀ entry ∈ out, Reports fromUtf8Lossy world.requests entry)
      (act (.loadFlags slot))
      (fun (flags : UInt32) _ world =>
        (∀ entry ∈ out, Reports fromUtf8Lossy world.requests entry) ∧
        (flags ≠ 0 → ∃ registration, flags = registration.flags ||| counterFlagInUse ∧
          Reading fromUtf8Lossy out slot registration world)) := by
    apply act_triple
    · exact fun _ _ _ relied reports entry member =>
        (reports entry member).more relied.requests
    · exact fun _ _ _ => trivial
    · intro self world oracle result after accounted _few reports performed
      cases performed
      refine ⟨reports, fun used => ?_⟩
      obtain ⟨registration, asked, describes⟩ := accounted.described slot used
      exact ⟨registration, describes.flags, reports, asked, used, describes⟩
  apply Contract.Triple.bind loads
  intro (flags : UInt32)
  by_cases unused : flags &&& counterFlagInUse = 0
  · rw [if_pos unused]
    exact Contract.Triple.pure _ (fun _ _ held => held.1)
  · rw [if_neg unused]
    have used : flags ≠ 0 := by
      rintro rfl
      exact unused rfl
    apply Contract.Triple.strengthen (Contract.Triple.exists fun registration => ?_)
      (fun _ _ held => held.2 used)
    apply Contract.Triple.given (flags = registration.flags ||| counterFlagInUse)
      (fun _ _ held => held.1)
    intro flagged
    have label : (registry fromUtf8Lossy).Triple caller
        (fun _ => Reading fromUtf8Lossy out slot registration) (act (.readLabel slot))
        (fun (label : List UInt8) _ world => label = paddedLabel registration.label ∧
          Reading fromUtf8Lossy out slot registration world) := by
      apply read_triple
      · exact fun _ => trivial
      · intro oracle world after result describes performed
        cases performed
        exact ⟨rfl, describes.label⟩
    have id : (registry fromUtf8Lossy).Triple caller
        (fun _ => Reading fromUtf8Lossy out slot registration) (act (.readId slot))
        (fun (id : UInt32) _ world => id = registration.id ∧
          Reading fromUtf8Lossy out slot registration world) := by
      apply read_triple
      · exact fun _ => trivial
      · intro oracle world after result describes performed
        cases performed
        exact ⟨rfl, describes.id⟩
    have value : (registry fromUtf8Lossy).Triple caller
        (fun _ => Reading fromUtf8Lossy out slot registration) (act (.loadValue slot))
        (fun (_ : UInt64) _ world => True ∧
          Reading fromUtf8Lossy out slot registration world) := by
      apply read_triple
      · exact fun _ => trivial
      · intro oracle world after result describes performed
        cases performed
        exact ⟨rfl, trivial⟩
    apply Contract.Triple.bind (label.strengthen (fun _ _ held => held.2))
    intro whole
    apply Contract.Triple.given (whole = paddedLabel registration.label) (fun _ _ held => held.1)
    intro padded
    apply Contract.Triple.bind (label.strengthen (fun _ _ held => held.2))
    intro text
    apply Contract.Triple.given (text = paddedLabel registration.label) (fun _ _ held => held.1)
    intro paddedToo
    apply Contract.Triple.bind (id.strengthen (fun _ _ held => held.2))
    intro id
    apply Contract.Triple.given (id = registration.id) (fun _ _ held => held.1)
    intro same
    apply Contract.Triple.bind (value.strengthen (fun _ _ held => held.2))
    intro value
    apply Contract.Triple.pure
    intro self world held entry member
    rcases List.mem_append.mp member with before | new
    · exact held.2.reports entry before
    · rw [List.mem_singleton.mp new]
      refine ⟨registration, held.2.asked, same, flagged, ?_⟩
      change fromUtf8Lossy _ = fromUtf8Lossy _
      rw [padded, paddedToo, text_of_padded]

theorem snapshot_triple :
    (registry fromUtf8Lossy).Triple caller (fun _ _ => True) (snapshot fromUtf8Lossy)
      (fun taken _ world => ∀ entry ∈ taken, Reports fromUtf8Lossy world.requests entry) := by
  have counts : (registry fromUtf8Lossy).Triple caller (fun _ _ => True) (act .loadSlotCount)
      (fun _ _ _ => True) := by
    apply act_triple
    · exact fun _ _ _ _ _ => trivial
    · exact fun _ _ _ => trivial
    · exact fun _ _ _ _ _ _ _ _ _ => trivial
  apply Contract.Triple.bind counts
  intro count
  apply (Contract.Triple.fold
    (fun (_ : List Nat) (out : List CounterSnapshot) (_ : List Nat) (world : World Caller) =>
      ∀ entry ∈ out, Reports fromUtf8Lossy world.requests entry) _ _ []).strengthen
  · intro self world _held entry impossible
    cases impossible
  · exact fun slot _rest out => snapshotSlot_triple out slot

/-! ### All callers -/

theorem serve_triple :
    (registry fromUtf8Lossy).Triple caller (fun _ _ => True) (serve fromUtf8Lossy caller)
      (fun _ _ _ => True) := by
  have asks : (registry fromUtf8Lossy).Triple caller (fun _ _ => True) (act (.nextRequest caller))
      (fun (request : Request) _ world => ∀ registration, request = .register registration →
        (caller, .entered) ∈ world.underWay ∧ registration ∈ world.requests) := by
    apply act_triple
    · exact fun _ _ _ _ _ => trivial
    · exact fun _ _ _ => rfl
    · intro self world request result after _accounted _few _held performed registration same
      cases request with
      | register asked =>
          cases performed
          cases same
          exact ⟨List.mem_cons_self, List.mem_append_right _ List.mem_cons_self⟩
      | snapshot =>
          cases performed
          cases same
      | add counter amount =>
          cases performed
          cases same
  apply Contract.Triple.bind asks
  intro request
  cases request with
  | register registration =>
      have returns : ∀ outcome : Option Nat, (registry fromUtf8Lossy).Triple caller
          (fun _ world => (caller, outcome.elim .refused .holding) ∈ world.underWay)
          (act (.returned caller outcome)) (fun _ _ _ => True) := by
        intro outcome
        apply act_triple
        · exact fun _ _ _ relied ready => relied.underWay _ ready
        · exact fun _ _ ready => ⟨rfl, ready⟩
        · exact fun _ _ _ _ _ _ _ _ _ => trivial
      apply Contract.Triple.bind ((register_triple registration).strengthen
        (fun _ _ held => held registration rfl))
      intro outcome
      apply Contract.Triple.bind (returns outcome)
      intro _
      exact Contract.Triple.update (fun _ _ _ => trivial)
  | snapshot =>
      apply Contract.Triple.bind (snapshot_triple.strengthen (fun _ _ _ => trivial))
      intro taken
      apply act_triple
      · exact fun _ _ _ relied reports entry member => (reports entry member).more relied.requests
      · exact fun _ _ reports => reports
      · exact fun _ _ _ _ _ _ _ _ _ => trivial
  | add counter amount =>
      apply Contract.Triple.through (fun _ _ _ => True)
        (Contract.Triple.get.weaken (fun _ _ _ _ => trivial))
      intro counters
      cases named : counters[counter]? with
      | none => exact Contract.Triple.pure () (fun _ _ _ => trivial)
      | some slot =>
          apply act_triple
          · exact fun _ _ _ _ held => held
          · exact fun _ _ _ => trivial
          · exact fun _ _ _ _ _ _ _ _ _ => trivial

theorem started_upheld : (registry fromUtf8Lossy).Upheld (@started Caller fromUtf8Lossy) := by
  constructor
  · exact Accounted.initial
  · intro caller fuel
    exact Contract.Triple.forever serve_triple trivial fuel _

/-- The slots go each to one call that succeeds, as many calls succeed as there are slots for
them, and a snapshot holds what calls have written, and no half of it. -/
structure HandedOutOnce (fromUtf8Lossy : List UInt8 → String) (world : World Caller) : Prop where
  distinct : (granted world.outcomes).Nodup
  below : ∀ slot ∈ granted world.outcomes, slot < maxCounterSlots
  returned : world.outcomes.length = world.requests.length →
    (granted world.outcomes).length = min world.requests.length maxCounterSlots ∧
      world.slotCount.toNat = min world.requests.length maxCounterSlots
  complete : ∀ snapshot ∈ world.snapshots, ∀ entry ∈ snapshot,
    Reports fromUtf8Lossy world.requests entry

omit [DecidableEq Caller] in
theorem length_granted {outcomes : List (Option Nat)} (all : none ∉ outcomes) :
    (granted outcomes).length = outcomes.length := by
  induction outcomes with
  | nil => rfl
  | cons outcome rest ih =>
      rw [List.mem_cons, not_or] at all
      cases outcome with
      | none => exact absurd rfl all.1
      | some slot =>
          have later := ih all.2
          simp only [granted, List.filterMap_cons, id, List.length_cons] at later ⊢
          rw [later]

omit [DecidableEq Caller] in
theorem Accounted.handedOutOnce {world : World Caller} (accounted : Accounted fromUtf8Lossy world) :
    HandedOutOnce fromUtf8Lossy world := by
  constructor
  · exact (List.nodup_append.mp accounted.nodup).1
  · intro slot member
    exact Nat.lt_of_lt_of_le (accounted.below (List.mem_append_left _ member)) accounted.inBounds
  · intro done
    have calls := accounted.calls
    have idle : world.underWay = [] := by
      apply List.eq_nil_of_length_eq_zero
      omega
    have held : world.held = granted world.outcomes := by
      rw [World.held, idle]
      exact List.append_nil _
    have settled : world.overshoots = 0 := by
      rw [World.overshoots, idle]
      rfl
    have bounded := accounted.inBounds
    have counted := accounted.counted
    have fewer : (granted world.outcomes).length ≤ world.outcomes.length :=
      List.length_filterMap_le _ _
    rw [held] at bounded counted
    have number : (granted world.outcomes).length = min world.requests.length maxCounterSlots := by
      by_cases refused : none ∈ world.outcomes
      · have full := accounted.full (.inl refused)
        rw [held] at full
        omega
      · have all := length_granted refused
        omega
    unfold maxCounterSlots at bounded number ⊢
    omega
  · exact accounted.reported

/-- In every run in which the word of the header does not wrap. -/
theorem slots_handed_out_once {after : Configuration (signature Caller) Unit Caller (World Caller)}
    {moves : List (Move Caller Request)}
    (few : (countersFile Caller).Meets (fun _ _ action world => FewOvershoots action world)
      (started fromUtf8Lossy) moves)
    (ran : (countersFile Caller).run (started fromUtf8Lossy) moves = some after) :
    HandedOutOnce fromUtf8Lossy after.world := by
  have upheld : (registry fromUtf8Lossy).Upheld after := by
    apply Contract.Upheld.run _ started_upheld few _ ran
    · exact fun _ _ _ _ _ restarted => nomatch restarted
    · exact Machine.accepts_always (fun _ _ _ _ _ => trivial) _ _
  exact upheld.invariant.handedOutOnce

end Registry

def anyCall : Registration := { id := 16, flags := 2, label := "events_published" }

def call : List Request :=
  .snapshot :: .register anyCall :: List.replicate 6 .snapshot

def inTurn (first second : List Request) : List (Move Bool Request) :=
  (first.zip second).flatMap fun requests => [.step false requests.1, .step true requests.2]

/-- One caller takes a snapshot while the other fills a slot. In the end both ask for the
last slot. -/
def contended : List (Move Bool Request) :=
  call.map (.step false) ++ (call.take 5).map (.step true) ++
    (List.replicate 10 .snapshot).map (.step false) ++ (call.drop 5).map (.step true) ++
    (List.replicate 29 (inTurn call call)).flatten ++ call.map (.step false) ++
    inTurn (call.take 5) (call.take 5) ++ (call.drop 5).map (.step false)

theorem slots_handed_out_once_contended :
    ∃ after, (countersFile Bool).run (started fun _ => "") contended = some after ∧
      after.world.outcomes.getLast? = some (some 61) ∧ none ∈ after.world.outcomes ∧
      after.world.snapshots.map List.length = [1] ∧ HandedOutOnce (fun _ => "") after.world := by
  have found : ((countersFile Bool).run (started fun _ => "") contended).any (fun after =>
      decide (after.world.outcomes.getLast? = some (some 61)) &&
        decide (none ∈ after.world.outcomes) &&
        decide (after.world.snapshots.map List.length = [1])) = true := by
    decide +kernel
  have checked : (countersFile Bool).checks (fun _ _ action world => FewOvershoots action world)
      (started fun _ => "") contended = true := by
    decide +kernel
  obtain ⟨after, ran, shown⟩ := (Option.any_eq_true _ _).mp found
  simp only [Bool.and_eq_true, decide_eq_true_eq] at shown
  obtain ⟨⟨last, refused⟩, taken⟩ := shown
  exact ⟨after, ran, last, refused, taken,
    slots_handed_out_once (Machine.meets_of_checks checked) ran⟩

/-! ### The word wraps -/

def start (caller : Nat) : Program (signature Nat) Unit Unit :=
  Routine.forever (serve fromUtf8Lossy caller) []

variable {fromUtf8Lossy}

/-- A call that finds the word at zero gets the first slot, whoever has it. -/
theorem registers_first (fromUtf8Lossy : List UInt8 → String) {world : World Nat}
    (zero : world.slotCount = 0) (caller : Nat) :
    ∃ oracles program after,
      (countersFile Nat).advance oracles (start fromUtf8Lossy caller) world =
        some (program, after) ∧
      after.slotCount = 1 ∧ after.outcomes = world.outcomes ++ [some 0] := by
  cases world
  cases zero
  exact ⟨[.snapshot, .register anyCall, .snapshot, .snapshot, .snapshot, .snapshot, .snapshot,
    .snapshot], _, _, rfl, rfl, rfl⟩

theorem takes_number (fromUtf8Lossy : List UInt8 → String) (world : World Nat) (caller : Nat) :
    ∃ oracles program after,
      (countersFile Nat).advance oracles (start fromUtf8Lossy caller) world =
        some (program, after) ∧
      after.slotCount = world.slotCount + 1 ∧ after.outcomes = world.outcomes :=
  ⟨[.snapshot, .register anyCall, .snapshot], _, _, rfl, rfl, rfl⟩

def Waiting (fromUtf8Lossy : List UInt8 → String) (first : Nat)
    (configuration : Configuration (signature Nat) Unit Nat (World Nat)) : Prop :=
  ∀ caller, first ≤ caller → configuration.program caller = start fromUtf8Lossy caller

theorem next_moves {first : Nat}
    {configuration : Configuration (signature Nat) Unit Nat (World Nat)}
    (waiting : Waiting fromUtf8Lossy first configuration) {oracles : List Request}
    {program : Program (signature Nat) Unit Unit} {world : World Nat}
    (advanced : (countersFile Nat).advance oracles (start fromUtf8Lossy first)
      configuration.world = some (program, world)) :
    ∃ moves after, (countersFile Nat).run configuration moves = some after ∧
      Waiting fromUtf8Lossy (first + 1) after ∧ after.world = world := by
  rw [← waiting first (Nat.le_refl _)] at advanced
  refine ⟨_, _, Machine.run_advance advanced, ?_, rfl⟩
  intro caller later
  rw [Configuration.launch_other]
  · exact waiting caller (Nat.le_of_succ_le later)
  · omega

theorem all_take_numbers (count first : Nat)
    (configuration : Configuration (signature Nat) Unit Nat (World Nat))
    (waiting : Waiting fromUtf8Lossy first configuration) :
    ∃ moves after, (countersFile Nat).run configuration moves = some after ∧
      Waiting fromUtf8Lossy (first + count) after ∧
      after.world.slotCount = configuration.world.slotCount + UInt32.ofNat count ∧
      after.world.outcomes = configuration.world.outcomes := by
  induction count generalizing first configuration with
  | zero => exact ⟨[], configuration, rfl, waiting, by simp, rfl⟩
  | succ count ih =>
      obtain ⟨oracles, program, world, advanced, counted, returned⟩ :=
        takes_number fromUtf8Lossy configuration.world first
      obtain ⟨moves, middle, ran, waitingStill, rfl⟩ := next_moves waiting advanced
      obtain ⟨more, after, ranOn, waitingOn, countedOn, returnedOn⟩ :=
        ih (first + 1) middle waitingStill
      refine ⟨moves ++ more, after, Machine.run_through ran ranOn, ?_, ?_, ?_⟩
      · rw [← Nat.add_right_comm, Nat.add_assoc] at waitingOn
        exact waitingOn
      · rw [countedOn, counted, UInt32.add_assoc, UInt32.add_comm 1,
          UInt32.ofNat_add]
        rfl
      · exact returnedOn.trans returned

/-- When more than the word can count have called, a slot goes to two of them. -/
theorem slot_handed_out_twice :
    ∃ moves after,
      (countersFile Nat).run (started fun _ => "") moves = some after ∧
      ¬ (granted after.world.outcomes).Nodup := by
  have waiting : Waiting (fun _ => "") 0 (started fun _ => "") := fun caller _ => rfl
  obtain ⟨_oracles, _program, _world, advanced, counted, returned⟩ :=
    registers_first (fun _ => "") (by rfl : (started fun _ => "").world.slotCount = 0) 0
  obtain ⟨moves, first, ran, waitingFirst, rfl⟩ := next_moves waiting advanced
  obtain ⟨more, second, ranOn, waitingSecond, countedOn, returnedOn⟩ :=
    all_take_numbers (2 ^ 32 - 1) 1 first waitingFirst
  have zero : second.world.slotCount = 0 := by
    rw [countedOn, counted]
    rfl
  obtain ⟨_oracles, _program, _world, advancedLast, _counted, returnedLast⟩ :=
    registers_first (fun _ => "") zero (1 + (2 ^ 32 - 1))
  obtain ⟨last, third, ranLast, _waiting, rfl⟩ := next_moves waitingSecond advancedLast
  refine ⟨moves ++ more ++ last, third, ?_, ?_⟩
  · exact Machine.run_through (Machine.run_through ran ranOn) ranLast
  · rw [returnedLast, returnedOn, returned]
    decide

end Observability
