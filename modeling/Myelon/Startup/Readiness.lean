/-
The counter of the consumers that are ready.

Where every consumer that attaches adds itself to the counter, and none does so a second time,
the counter is the number of the consumers that have attached in the session, and a wait for
some of them answers what is the case.
-/

import Mathlib.Tactic.Ring
import Myelon.Interleaving.RelyGuarantee
import Myelon.Startup.Session

namespace Startup

open Interleaving Delivery
open Ring (Backend ConsumerId)

/-! ### Who has attached -/

def Event.consumer? : Event → Option ConsumerId
  | .signalled consumerId => some consumerId
  | .attached consumerId => some consumerId
  | _ => none

def Event.ofConsumer : Event → Bool
  | .opened _ _ => true
  | .signalled _ => true
  | .attached _ => true
  | _ => false

def Event.opener? : Event → Option ConsumerId
  | .opened _ consumerId => some consumerId
  | _ => none

/-- The consumers that have attached. One that has counted itself has done so. -/
def attachedIn (events : List Event) : Finset ConsumerId :=
  (events.filterMap Event.consumer?).toFinset

theorem attachedIn_consumer {events : List Event} (event : Event) {consumerId : ConsumerId}
    (shown : event.consumer? = some consumerId) :
    attachedIn (events ++ [event]) = insert consumerId (attachedIn events) := by
  ext other
  simp only [attachedIn, List.filterMap_append, List.filterMap_cons, shown, List.filterMap_nil,
    List.mem_toFinset, List.mem_append, List.mem_singleton, Finset.mem_insert]
  exact or_comm

theorem mem_attachedIn_snoc {events : List Event} {event : Event} {consumerId : ConsumerId} :
    consumerId ∈ attachedIn (events ++ [event]) ↔
      consumerId ∈ attachedIn events ∨ event.consumer? = some consumerId := by
  simp only [attachedIn, List.filterMap_append, List.toFinset_append, Finset.mem_union,
    List.mem_toFinset, List.mem_filterMap, List.mem_singleton, exists_eq_left]

theorem attachedIn_append {events more : List Event} {consumerId : ConsumerId}
    (member : consumerId ∈ attachedIn events) : consumerId ∈ attachedIn (events ++ more) := by
  rw [attachedIn, List.filterMap_append, List.toFinset_append]
  exact Finset.mem_union_left _ member

theorem attachedIn_other {events : List Event} {event : Event} (shown : event.consumer? = none) :
    attachedIn (events ++ [event]) = attachedIn events := by
  unfold attachedIn
  rw [List.filterMap_append, List.filterMap_cons, shown, List.filterMap_nil, List.append_nil]

/-- In the current wait, the producer has looked when that many had attached. -/
def SawEnough (minConsumers : Int) (events : List Event) : Prop :=
  ∃ earlier later, events = earlier ++ .looked :: later ∧
    (∀ other, Event.waits other ∉ later) ∧ minConsumers ≤ (attachedIn earlier).card

variable {minConsumers : Int} {events : List Event}

theorem sawEnough_other {event : Event} (unseen : event ≠ .looked)
    (waits : ∀ other, event ≠ .waits other) :
    SawEnough minConsumers (events ++ [event]) ↔ SawEnough minConsumers events := by
  constructor
  · intro saw
    obtain ⟨earlier, later, split, same, enough⟩ := saw
    rcases snoc_split.mp split with ⟨_end, _front, here⟩ | ⟨more, rfl, front⟩
    · exact absurd here unseen
    · exact ⟨earlier, more, front, fun other member => same other (List.mem_append_left _ member),
        enough⟩
  · intro saw
    obtain ⟨earlier, later, front, same, enough⟩ := saw
    refine ⟨earlier, later ++ [event], snoc_split.mpr (.inr ⟨later, rfl, front⟩), ?_, enough⟩
    intro other member
    rcases List.mem_append.mp member with before | here
    · exact same other before
    · exact waits other (List.mem_singleton.mp here).symm

theorem sawEnough_looked :
    SawEnough minConsumers (events ++ [.looked]) ↔
      SawEnough minConsumers events ∨ minConsumers ≤ (attachedIn events).card := by
  constructor
  · intro saw
    obtain ⟨earlier, later, split, same, enough⟩ := saw
    rcases snoc_split.mp split with ⟨_end, rfl, _here⟩ | ⟨more, rfl, front⟩
    · exact .inr enough
    · exact .inl ⟨earlier, more, front,
        fun other member => same other (List.mem_append_left _ member), enough⟩
  · intro saw
    rcases saw with ⟨earlier, later, front, same, enough⟩ | enough
    · refine ⟨earlier, later ++ [.looked], snoc_split.mpr (.inr ⟨later, rfl, front⟩), ?_, enough⟩
      intro other member
      rcases List.mem_append.mp member with before | here
      · exact same other before
      · cases List.mem_singleton.mp here
    · exact ⟨events, [], rfl, fun _ => List.not_mem_nil, enough⟩

theorem not_sawEnough_waits {begun : Int} :
    ¬ SawEnough minConsumers (events ++ [.waits begun]) := by
  intro saw
  obtain ⟨earlier, later, split, same, _enough⟩ := saw
  rcases snoc_split.mp split with ⟨_end, _front, here⟩ | ⟨more, rfl, _front⟩
  · cases here
  · exact same begun (List.mem_append_right _ (List.mem_singleton_self _))

/-! ### The contract of a session -/

/-- How the consumers come to the counter. The producer creates it itself, and it has its
initial value where one of them looks for it. In shared memory a cursor that a consumer finds
is left over from before the session: no consumer attaches again. A cursor file that one finds
is that of a consumer that has attached in the session, and no two consumers create one. -/
def Circumstances (backend : Backend) : Party → Unit → Action → World → Prop
  | _, _, .createReadiness, world => world.readiness = none
  | _, _, .attachConsumerSequence _ consumerId, world =>
      match backend with
      | .sharedMemory => ∀ event ∈ world.events, event.opener? ≠ some consumerId
      | .mmap => consumerId ∈ attachedIn world.events
  | _, _, .truncateConsumerSequence _ consumerId, world => consumerId ∉ world.cursors
  | _, _, .attachReadiness consumerId, world =>
      consumerId ∈ attachedIn world.events ∨ .initialised ∈ world.events
  | _, _, .signalReadiness _, world => (attachedIn world.events).card + 1 < 2 ^ 63
  | _, _, _, _ => True

def CounterOpens : Party → Unit → Action → Oracle → World → Prop
  | _, _, .attachReadiness consumerId, oracle, world =>
      consumerId ∈ attachedIn world.events ∨ oracle = .opens true
  | _, _, _, _, _ => True

/-- A wait returns `true` just if it has looked when enough had attached. -/
def Answers (before : List Event) : Event → Prop
  | .waited minConsumers ready => ready = true ↔ SawEnough minConsumers before
  | _ => True

structure Counted (world : World) : Prop where
  early : .initialised ∉ world.events → attachedIn world.events = ∅
  count : .initialised ∈ world.events → world.readiness = some ((attachedIn world.events).card)
  answered : Throughout Answers world.events

structure Opened (world : World) : Prop where
  cursors : ∀ number consumerId, .opened number consumerId ∈ world.events →
    consumerId ∈ world.cursors
  attached : ∀ consumerId ∈ attachedIn world.events,
    ∃ number, .opened number consumerId ∈ world.events
  /-- The process is the only one that may count the consumer. -/
  alone : ∀ consumerId ∉ attachedIn world.events, ∀ first second,
    .opened first consumerId ∈ world.events → .opened second consumerId ∈ world.events →
    first = second

def Owns (number : Nat) (consumerId : ConsumerId) (world : World) : Prop :=
  .opened number consumerId ∈ world.events ∧ consumerId ∉ attachedIn world.events

def readinessGuarantee (party : Party) (world : World) : Action → Prop
  | .createReadiness => party = .producer ∧ .initialised ∉ world.events
  | .truncateReadiness => party = .producer ∧ .initialised ∉ world.events
  | .writeInitial value => party = .producer ∧ .initialised ∉ world.events ∧ value = 0
  | .createConsumerSequence number _ => party = .process number
  | .truncateConsumerSequence number _ => party = .process number
  | .attachConsumerSequence number _ => party = .process number
  | .signalReadiness consumerId => .initialised ∈ world.events ∧
      ∃ number, party = .process number ∧ Owns number consumerId world
  | .attached consumerId => party ≠ .producer ∧ consumerId ∈ attachedIn world.events
  | .waits _ => party = .producer
  | .loadReadiness => party = .producer
  | .waited minConsumers ready =>
      party = .producer ∧ (ready = true ↔ SawEnough minConsumers world.events)
  | _ => True

def OthersAttach (before after : World) : Prop :=
  ∃ more, after.events = before.events ++ more ∧ ∀ event ∈ more, event.ofConsumer = true

theorem OthersAttach.refl (world : World) : OthersAttach world world :=
  ⟨[], (List.append_nil _).symm, fun _ impossible => absurd impossible List.not_mem_nil⟩

theorem OthersAttach.trans {first second third : World} (left : OthersAttach first second)
    (right : OthersAttach second third) : OthersAttach first third := by
  obtain ⟨more, grown, onlyMore⟩ := left
  obtain ⟨further, grownFurther, onlyFurther⟩ := right
  refine ⟨more ++ further, ?_, ?_⟩
  · rw [grownFurther, grown, List.append_assoc]
  · intro event member
    exact (List.mem_append.mp member).elim (onlyMore event) (onlyFurther event)

/-- The others do not count a consumer whose cursor the process has. -/
structure OthersGoOn (number : Nat) (before after : World) : Prop where
  events : before.events <+: after.events
  owned : ∀ consumerId, Owns number consumerId before → consumerId ∉ attachedIn after.events

theorem OthersGoOn.refl (number : Nat) (world : World) : OthersGoOn number world world :=
  ⟨List.prefix_refl _, fun _ owns => owns.2⟩

theorem OthersGoOn.trans {number : Nat} {first second third : World}
    (left : OthersGoOn number first second) (right : OthersGoOn number second third) :
    OthersGoOn number first third where
  events := left.events.trans right.events
  owned := fun consumerId owns =>
    right.owned consumerId ⟨left.events.subset owns.1, left.owned consumerId owns⟩

section Steps

variable {before after : World} {event : Event} {party : Party}

theorem Counted.noted (counted : Counted before) (grown : after.events = before.events ++ [event])
    (silent : event.consumer? = none) (begun : event ≠ .initialised)
    (same : after.readiness = before.readiness) (answers : Answers before.events event) :
    Counted after where
  early := by
    intro never
    rw [grown, attachedIn_other silent]
    apply counted.early
    intro member
    apply never
    rw [grown]
    exact List.mem_append_left _ member
  count := by
    intro member
    rw [grown, List.mem_append, List.mem_singleton] at member
    rw [grown, attachedIn_other silent, same]
    exact counted.count (member.resolve_right begun.symm)
  answered := by
    rw [grown]
    exact throughout_snoc.mpr ⟨counted.answered, answers⟩

theorem Counted.remade (counted : Counted before) (same : after.events = before.events)
    (never : .initialised ∉ before.events) : Counted after where
  early := by
    rw [same]
    exact counted.early
  count := by
    rw [same]
    intro member
    exact absurd member never
  answered := by
    rw [same]
    exact counted.answered

theorem Counted.same (counted : Counted before) (same : after.events = before.events)
    (kept : after.readiness = before.readiness) : Counted after where
  early := by
    rw [same]
    exact counted.early
  count := by
    rw [same, kept]
    exact counted.count
  answered := by
    rw [same]
    exact counted.answered

theorem wrappingAdd_card {card : Nat} (small : card + 1 < 2 ^ 63) :
    Register.wrappingAdd card 1 = ((card + 1 : Nat) : Int) := by
  unfold Register.wrappingAdd
  rw [Int.bmod_eq_of_le] <;> omega

theorem Counted.signalled (counted : Counted before) {consumerId : ConsumerId} {count : Int}
    (there : before.readiness = some count) (begun : .initialised ∈ before.events)
    (fresh : consumerId ∉ attachedIn before.events)
    (small : (attachedIn before.events).card + 1 < 2 ^ 63) :
    Counted (World.record
      { before with readiness := some (Register.wrappingAdd count 1) }
      (.signalled consumerId)) where
  early := by
    intro never
    exact absurd (List.mem_append_left _ begun) never
  count := by
    intro _member
    have exact := counted.count begun
    rw [there] at exact
    cases exact
    change some _ =
      some (((attachedIn (before.events ++ [.signalled consumerId])).card : Nat) : Int)
    rw [attachedIn_consumer (.signalled consumerId) rfl, Finset.card_insert_of_notMem fresh,
      wrappingAdd_card small]
  answered := throughout_snoc.mpr ⟨counted.answered, trivial⟩

theorem Counted.attached (counted : Counted before) {consumerId : ConsumerId}
    (already : consumerId ∈ attachedIn before.events) :
    Counted (before.record (.attached consumerId)) := by
  have same : attachedIn (before.events ++ [.attached consumerId]) = attachedIn before.events := by
    rw [attachedIn_consumer (.attached consumerId) rfl, Finset.insert_eq_of_mem already]
  refine ⟨?_, ?_, throughout_snoc.mpr ⟨counted.answered, trivial⟩⟩
  · intro never
    exact same.trans (counted.early fun member => never (List.mem_append_left _ member))
  · intro member
    change before.readiness =
      some (((attachedIn (before.events ++ [.attached consumerId])).card : Nat) : Int)
    rw [same]
    exact counted.count ((List.mem_append.mp member).resolve_right (by simp))

theorem Opened.same (opened : Opened before) (same : after.events = before.events)
    (kept : after.cursors = before.cursors) : Opened after where
  cursors := by
    rw [same, kept]
    exact opened.cursors
  attached := by
    rw [same]
    exact opened.attached
  alone := by
    rw [same]
    exact opened.alone

theorem Opened.noted (opened : Opened before) (grown : after.events = before.events ++ [event])
    (kept : after.cursors = before.cursors) (opens : event.opener? = none)
    (told : ∀ consumerId, event.consumer? = some consumerId →
      ∃ number, .opened number consumerId ∈ before.events) : Opened after := by
  have earlier : ∀ number consumerId, .opened number consumerId ∈ after.events →
      .opened number consumerId ∈ before.events := by
    intro number consumerId member
    rw [grown] at member
    rcases List.mem_append.mp member with there | here
    · exact there
    · rw [← List.mem_singleton.mp here] at opens
      cases opens
  refine ⟨?_, ?_, ?_⟩
  · intro number consumerId member
    rw [kept]
    exact opened.cursors number consumerId (earlier number consumerId member)
  · intro consumerId member
    rw [grown] at member ⊢
    obtain ⟨number, there⟩ := (mem_attachedIn_snoc.mp member).elim (opened.attached consumerId)
      (told consumerId)
    exact ⟨number, List.mem_append_left _ there⟩
  · intro consumerId fresh first second left right
    rw [grown] at fresh
    exact opened.alone consumerId (fun member => fresh (mem_attachedIn_snoc.mpr (.inl member)))
      first second (earlier first consumerId left) (earlier second consumerId right)

theorem Opened.opens (opened : Opened before) {number : Nat} {consumerId : ConsumerId}
    (grown : after.events = before.events ++ [.opened number consumerId])
    (there : consumerId ∈ after.cursors) (kept : before.cursors ⊆ after.cursors)
    (free : consumerId ∈ attachedIn before.events ∨
      ∀ other, .opened other consumerId ∉ before.events) : Opened after := by
  have same : attachedIn after.events = attachedIn before.events := by
    rw [grown, attachedIn_other rfl]
  refine ⟨?_, ?_, ?_⟩
  · intro other named member
    rw [grown] at member
    rcases List.mem_append.mp member with earlier | here
    · exact kept (opened.cursors other named earlier)
    · cases List.mem_singleton.mp here
      exact there
  · intro named member
    rw [same] at member
    obtain ⟨other, earlier⟩ := opened.attached named member
    rw [grown]
    exact ⟨other, List.mem_append_left _ earlier⟩
  · intro named fresh first second left right
    rw [same] at fresh
    rw [grown] at left right
    rcases List.mem_append.mp left with earlier | here
    · rcases List.mem_append.mp right with earlierToo | hereToo
      · exact opened.alone named fresh first second earlier earlierToo
      · cases List.mem_singleton.mp hereToo
        exact absurd earlier (free.resolve_left fresh first)
    · cases List.mem_singleton.mp here
      rcases List.mem_append.mp right with earlierToo | hereToo
      · exact absurd earlierToo (free.resolve_left fresh second)
      · cases List.mem_singleton.mp hereToo
        rfl

theorem Opened.unopened (opened : Opened before) {consumerId : ConsumerId}
    (absent : consumerId ∉ before.cursors) (number : Nat) :
    .opened number consumerId ∉ before.events :=
  fun member => absent (opened.cursors number consumerId member)

theorem Opened.owns (opened : Opened before) {number : Nat} {consumerId : ConsumerId}
    (grown : after.events = before.events ++ [.opened number consumerId])
    (free : ∀ other, .opened other consumerId ∉ before.events) :
    Owns number consumerId after := by
  rw [Owns, grown, attachedIn_other rfl]
  refine ⟨List.mem_append_right _ (List.mem_singleton_self _), fun member => ?_⟩
  obtain ⟨other, earlier⟩ := opened.attached consumerId member
  exact free other earlier

def Action.quiet : Action → Bool
  | .createReadiness => false
  | .truncateReadiness => false
  | .writeInitial _ => false
  | .createConsumerSequence _ _ => false
  | .truncateConsumerSequence _ _ => false
  | .attachConsumerSequence _ _ => false
  | .signalReadiness _ => false
  | .attached _ => false
  | .waits _ => false
  | .loadReadiness => false
  | .waited _ _ => false
  | _ => true

structure Still (before after : World) : Prop where
  events : after.events = before.events
  readiness : after.readiness = before.readiness
  cursors : after.cursors = before.cursors

theorem perform_quiet {action : Action} {oracle : Oracle} {result : action.Result}
    (quiet : action.quiet = true)
    (performed : perform action oracle before = some (result, after)) :
    Still before after := by
  cases action <;> try contradiction
  all_goals cases oracle <;> simp only [perform] at performed
  all_goals try split at performed
  all_goals first
    | contradiction
    | (cases performed; exact ⟨rfl, rfl, rfl⟩)

def Adds (party : Party) (before after : World) : Prop :=
  after.events = before.events ∨ ∃ event, after.events = before.events ++ [event] ∧
    (party ≠ .producer → event.ofConsumer = true) ∧
    ∀ consumerId, event.consumer? = some consumerId → consumerId ∈ attachedIn before.events ∨
      ∃ number, party = .process number ∧ .opened number consumerId ∈ before.events

theorem Adds.attach (adds : Adds party before after) (consumer : party ≠ .producer) :
    OthersAttach before after := by
  rcases adds with same | ⟨event, grown, tells, _told⟩
  · exact ⟨[], same.trans (List.append_nil _).symm,
      fun _ impossible => absurd impossible List.not_mem_nil⟩
  · refine ⟨[event], grown, fun other member => ?_⟩
    rw [List.mem_singleton.mp member]
    exact tells consumer

theorem Adds.goOn (adds : Adds party before after) (opened : Opened before) {number : Nat}
    (different : .process number ≠ party) : OthersGoOn number before after := by
  rcases adds with same | ⟨event, grown, _tells, told⟩
  · exact ⟨same ▸ List.prefix_refl _, fun consumerId owns => same ▸ owns.2⟩
  · refine ⟨⟨[event], grown.symm⟩, fun consumerId owns member => ?_⟩
    rw [grown] at member
    rcases mem_attachedIn_snoc.mp member with earlier | here
    · exact owns.2 earlier
    · rcases told consumerId here with earlier | ⟨other, acts, opens⟩
      · exact owns.2 earlier
      · apply different
        rw [acts, opened.alone consumerId owns.2 number other owns.1 opens]

theorem Adds.producer (acts : party = .producer)
    (grown : after.events = before.events ++ [event]) (silent : event.consumer? = none) :
    Adds party before after := by
  refine .inr ⟨event, grown, fun other => absurd acts other, fun consumerId tells => ?_⟩
  rw [silent] at tells
  cases tells

theorem Adds.opens {number : Nat} {consumerId : ConsumerId}
    (grown : after.events = before.events ++ [.opened number consumerId]) :
    Adds party before after :=
  .inr ⟨_, grown, fun _ => rfl, nofun⟩

variable {backend : Backend}

theorem readiness_performed {action : Action} {oracle : Oracle} {result : action.Result}
    (counted : Counted before) (opened : Opened before)
    (met : Circumstances backend party () action before)
    (guaranteed : readinessGuarantee party before action)
    (performed : perform action oracle before = some (result, after)) :
    (Counted after ∧ Opened after) ∧ Adds party before after := by
  by_cases quiet : action.quiet = true
  · have still := perform_quiet quiet performed
    exact ⟨⟨counted.same still.events still.readiness, opened.same still.events still.cursors⟩,
      .inl still.events⟩
  cases action <;> first | exact absurd rfl quiet | skip
  case createReadiness =>
    have none : before.readiness = none := met
    simp only [perform, none] at performed
    cases performed
    exact ⟨⟨counted.remade rfl guaranteed.2, opened.same rfl rfl⟩, .inl rfl⟩
  case truncateReadiness =>
    cases performed
    exact ⟨⟨counted.remade rfl guaranteed.2, opened.same rfl rfl⟩, .inl rfl⟩
  case writeInitial value =>
    obtain ⟨acts, never, rfl⟩ := guaranteed
    obtain ⟨count, _there, done⟩ := Option.map_eq_some_iff.mp performed
    cases done
    refine ⟨⟨⟨?_, ?_, ?_⟩, opened.noted rfl rfl rfl nofun⟩, .producer acts rfl rfl⟩
    · intro still
      exact absurd (List.mem_append_right _ (List.mem_singleton_self _)) still
    · intro _member
      change some (0 : Int) =
        some (((attachedIn (before.events ++ [.initialised])).card : Nat) : Int)
      rw [attachedIn_other rfl, counted.early never]
      rfl
    · exact throughout_snoc.mpr ⟨counted.answered, trivial⟩
  case createConsumerSequence number consumerId =>
    simp only [perform] at performed
    split at performed
    · cases performed
      exact ⟨⟨counted, opened⟩, .inl rfl⟩
    · rename_i absent
      cases performed
      exact ⟨⟨counted.noted rfl rfl (by simp) rfl trivial,
        opened.opens rfl List.mem_cons_self (List.subset_cons_self _ _)
          (.inr (opened.unopened absent))⟩, .opens rfl⟩
  case truncateConsumerSequence number consumerId =>
    have absent : consumerId ∉ before.cursors := met
    cases performed
    exact ⟨⟨counted.noted rfl rfl (by simp) rfl trivial,
      opened.opens rfl List.mem_cons_self (List.subset_cons_self _ _)
        (.inr (opened.unopened absent))⟩, .opens rfl⟩
  case attachConsumerSequence number consumerId =>
    cases oracle <;> simp only [perform] at performed
    case opens valid =>
      split at performed
      · rename_i present
        cases performed
        refine ⟨⟨counted.noted rfl rfl (by simp) rfl trivial,
          opened.opens rfl present.1 (List.Subset.refl _) ?_⟩, .opens rfl⟩
        cases backend with
        | sharedMemory => exact .inr fun other member => met _ member rfl
        | mmap => exact .inl met
      · cases performed
        exact ⟨⟨counted, opened⟩, .inl rfl⟩
    all_goals cases performed
  case signalReadiness consumerId =>
    have small : (attachedIn before.events).card + 1 < 2 ^ 63 := met
    obtain ⟨begun, number, rfl, opens, fresh⟩ := guaranteed
    obtain ⟨count, there, done⟩ := Option.map_eq_some_iff.mp performed
    cases done
    refine ⟨⟨counted.signalled there begun fresh small, opened.noted rfl rfl rfl ?_⟩,
      .inr ⟨_, rfl, fun _ => rfl, ?_⟩⟩
    · rintro _ ⟨⟩
      exact ⟨number, opens⟩
    · rintro _ ⟨⟩
      exact .inr ⟨number, rfl, opens⟩
  case attached consumerId =>
    obtain ⟨_consumer, already⟩ := guaranteed
    cases performed
    refine ⟨⟨counted.attached already, opened.noted rfl rfl rfl ?_⟩,
      .inr ⟨_, rfl, fun _ => rfl, ?_⟩⟩
    · rintro _ ⟨⟩
      exact opened.attached consumerId already
    · rintro _ ⟨⟩
      exact .inl already
  case waits minConsumers =>
    cases performed
    exact ⟨⟨counted.noted rfl rfl (by simp) rfl trivial, opened.noted rfl rfl rfl nofun⟩,
      .producer guaranteed rfl rfl⟩
  case loadReadiness =>
    obtain ⟨count, _there, done⟩ := Option.map_eq_some_iff.mp performed
    cases done
    exact ⟨⟨counted.noted rfl rfl (by simp) rfl trivial, opened.noted rfl rfl rfl nofun⟩,
      .producer guaranteed rfl rfl⟩
  case waited minConsumers ready =>
    cases performed
    exact ⟨⟨counted.noted rfl rfl (by simp) rfl guaranteed.2, opened.noted rfl rfl rfl nofun⟩,
      .producer guaranteed.1 rfl rfl⟩

end Steps

def readinessContract (backend : Backend) : Contract machine where
  condition := Circumstances backend
  accepts := CounterOpens
  guarantee := fun party _ action world => readinessGuarantee party world action
  invariant := fun world => Counted world ∧ Opened world
  rely := fun party before after => match party with
    | .producer => OthersAttach before after
    | .process number => OthersGoOn number before after
  relyRefl := by
    intro party world
    cases party with
    | producer => exact OthersAttach.refl world
    | process number => exact OthersGoOn.refl number world
  relyTrans := by
    intro party first second third left right
    cases party with
    | producer => exact OthersAttach.trans left right
    | process number => exact OthersGoOn.trans left right
  performed := by
    intro party self action oracle before result after holds met guaranteed performed
    obtain ⟨kept, adds⟩ := readiness_performed holds.1 holds.2 met guaranteed performed
    refine ⟨kept, fun other different => ?_⟩
    cases other with
    | producer => exact adds.attach different.symm
    | process number => exact adds.goOn holds.2 different
  restarted := fun _ impossible => absurd impossible (by simp [machine])

/-! ### What the consumers do -/

section Consumer

variable {backend : Backend} {number : Nat} {α β : Type}

abbrev ConsumerTriple (backend : Backend) (number : Nat) (pre : World → Prop)
    (routine : Process α) (post : α → World → Prop) : Prop :=
  (readinessContract backend).Triple (.process number) (fun _ => pre) routine
    (fun result _ => post result)

def Lasting (number : Nat) (pre : World → Prop) : Prop :=
  ∀ before after, OthersGoOn number before after → pre before → pre after

variable {pre : World → Prop} {consumerId : ConsumerId}

theorem lasting_always : Lasting number fun _ => True := fun _ _ _ _ => trivial

theorem lasting_owns : Lasting number (Owns number consumerId) :=
  fun _ _ others owns => ⟨others.events.subset owns.1, others.owned consumerId owns⟩

theorem lasting_attached : Lasting number fun world => consumerId ∈ attachedIn world.events := by
  intro before after others member
  obtain ⟨more, grown⟩ := others.events
  rw [← grown]
  exact attachedIn_append member

theorem lasting_initialised : Lasting number fun world => .initialised ∈ world.events :=
  fun _ _ others member => others.events.subset member

theorem Lasting.and {also : World → Prop} (left : Lasting number pre)
    (right : Lasting number also) : Lasting number fun world => pre world ∧ also world :=
  fun before after others both =>
    ⟨left before after others both.1, right before after others both.2⟩

theorem consumer_act {action : Action} {post : action.Result → World → Prop}
    (lasting : Lasting number pre)
    (kept : ∀ world, pre world → Counted world → Opened world →
      Circumstances backend (.process number) () action world →
      readinessGuarantee (.process number) world action ∧
      ∀ oracle result after, CounterOpens (.process number) () action oracle world →
        perform action oracle world = some (result, after) → post result after) :
    ConsumerTriple backend number pre (act action) post :=
  Contract.Triple.performAccepted fun _ world before holds relied kinds met =>
    kept before (lasting world before relied holds) kinds.1 kinds.2 met

theorem consumer_quiet {action : Action} (quiet : action.quiet = true)
    (lasting : Lasting number pre) :
    ConsumerTriple backend number pre (act action) (fun _ => pre) := by
  apply consumer_act lasting
  intro world holds _counted _opened _met
  constructor
  · cases action <;> trivial
  · intro oracle result after _accepted performed
    have still := perform_quiet quiet performed
    refine lasting world after ⟨still.events ▸ List.prefix_refl _, fun consumerId owns => ?_⟩ holds
    rw [still.events]
    exact owns.2

theorem consumer_choose {condition : Prop} [Decidable condition] {yes no : Process α}
    {post : α → World → Prop}
    (met : condition → ConsumerTriple backend number pre yes post)
    (missed : ¬ condition → ConsumerTriple backend number pre no post) :
    ConsumerTriple backend number pre (if condition then yes else no) post := by
  by_cases holds : condition
  · rw [if_pos holds]
    exact met holds
  · rw [if_neg holds]
    exact missed holds

theorem consumer_expect {condition : Prop} [Decidable condition] (lasting : Lasting number pre) :
    ConsumerTriple backend number pre (expect condition) (fun _ => pre) :=
  consumer_choose (fun _ => Contract.Triple.pure () fun _ _ holds => holds)
    (fun _ => Contract.Triple.bind (consumer_quiet rfl lasting) fun never => nomatch never)

theorem attachRing_triple (lasting : Lasting number pre) :
    ConsumerTriple backend number pre attachRing (fun _ => pre) :=
  Contract.Triple.bind (consumer_quiet rfl lasting) fun _ =>
    consumer_choose (fun _ => consumer_quiet rfl lasting)
      (fun _ => Contract.Triple.pure _ fun _ _ holds => holds)

theorem attachReadiness_triple :
    ConsumerTriple backend number (Owns number consumerId) (act (.attachReadiness consumerId))
      (fun (ready : Bool) world => ready = true ∧ .initialised ∈ world.events ∧
        Owns number consumerId world) := by
  apply consumer_act lasting_owns
  intro world owns counted _opened met
  refine ⟨trivial, fun oracle result after accepted performed => ?_⟩
  have begun : .initialised ∈ world.events := met.resolve_left owns.2
  cases accepted.resolve_left owns.2
  cases performed
  refine ⟨?_, begun, owns⟩
  rw [counted.count begun]
  rfl

theorem signal_triple :
    ConsumerTriple backend number
      (fun world => .initialised ∈ world.events ∧ Owns number consumerId world)
      (signalReadiness { consumerId, consumersReady := true })
      (fun _ world => consumerId ∈ attachedIn world.events) := by
  have signals : signalReadiness { consumerId, consumersReady := true } =
      act (.signalReadiness consumerId) := rfl
  rw [signals]
  apply consumer_act (lasting_initialised.and lasting_owns)
  intro world both _counted _opened _met
  refine ⟨⟨both.1, number, rfl, both.2⟩, fun oracle result after _accepted performed => ?_⟩
  obtain ⟨count, _there, done⟩ := Option.map_eq_some_iff.mp performed
  cases done
  exact mem_attachedIn_snoc.mpr (.inr rfl)

theorem returned_triple :
    ConsumerTriple backend number (fun world => consumerId ∈ attachedIn world.events)
      (act (.attached consumerId)) (fun _ _ => True) := by
  apply consumer_act lasting_attached
  intro world already _counted _opened _met
  exact ⟨⟨nofun, already⟩, fun _ _ _ _ _ => trivial⟩

namespace SharedConsumer

theorem newOrAttach_triple :
    ConsumerTriple .sharedMemory number (fun _ => True) (newOrAttach number consumerId)
      (fun opened world => opened = true → Owns number consumerId world) := by
  refine Contract.Triple.through
    (fun created _ world => created = true → Owns number consumerId world) ?_ fun created => ?_
  · apply consumer_act lasting_always
    intro world _always _counted opened _met
    refine ⟨rfl, fun oracle result after _accepted performed => ?_⟩
    simp only [perform] at performed
    split at performed
    · cases performed
      exact nofun
    · rename_i absent
      cases performed
      exact fun _ => opened.owns rfl (opened.unopened absent)
  · cases created with
    | true => exact Contract.Triple.pure _ fun _ _ owns _ => owns rfl
    | false =>
        refine Contract.Triple.strengthen ?_ fun _ _ _ => trivial
        apply consumer_act lasting_always
        intro world _always _counted opened met
        refine ⟨rfl, fun oracle result after _accepted performed => ?_⟩
        cases oracle <;> simp only [perform] at performed
        case opens valid =>
          split at performed
          · cases performed
            exact fun _ => opened.owns rfl fun other member => met _ member rfl
          · cases performed
            exact nofun
        all_goals cases performed

theorem newWithCoordination_triple :
    ConsumerTriple .sharedMemory number (Owns number consumerId) (newWithCoordination consumerId)
      (fun attached _ => ∀ consumer, attached = some consumer →
        consumer.consumersReady = true) := by
  refine Contract.Triple.bind (consumer_expect lasting_owns) fun _ =>
    Contract.Triple.bind attachReadiness_triple fun ready => ?_
  apply Contract.Triple.given (ready = true) (fun _ _ held => held.1)
  rintro rfl
  refine Contract.Triple.bind (signal_triple.strengthen fun _ _ held => held.2) fun _ =>
    Contract.Triple.bind returned_triple fun _ => Contract.Triple.pure _ fun _ _ _ => ?_
  rintro _ ⟨⟩
  rfl

theorem build_triple :
    ConsumerTriple .sharedMemory number (fun _ => True) (build number consumerId)
      (fun attached _ => ∀ consumer, attached = some consumer →
        consumer.consumersReady = true) := by
  have nothing : ∀ {pre : World → Prop}, ConsumerTriple .sharedMemory number pre
      (pure none : Process (Option Consumer)) (fun attached _ => ∀ consumer,
        attached = some consumer → consumer.consumersReady = true) :=
    Contract.Triple.pure _ fun _ _ _ => nofun
  refine Contract.Triple.bind (attachRing_triple lasting_always) fun _ =>
    consumer_choose (fun _ => Contract.Triple.bind newOrAttach_triple fun opened => ?_)
      (fun _ => nothing)
  exact consumer_choose (fun opens => newWithCoordination_triple.strengthen
    fun _ _ owns => owns opens) (fun _ => nothing)

end SharedConsumer

namespace MmapConsumer

theorem newOrAttach_triple :
    ConsumerTriple .mmap number (fun _ => True) (newOrAttach number consumerId)
      (fun found world => found.1 = true → if found.2 = true then Owns number consumerId world
        else consumerId ∈ attachedIn world.events) := by
  refine Contract.Triple.bind (consumer_quiet rfl lasting_always) fun config =>
    consumer_choose (fun _ => Contract.Triple.bind (consumer_quiet rfl lasting_always)
      fun there => consumer_choose (fun _ => ?_) (fun _ => ?_))
      (fun _ => Contract.Triple.pure _ fun _ _ _ => nofun)
  · refine Contract.Triple.through
      (fun opened _ world => opened = true → consumerId ∈ attachedIn world.events) ?_
      fun opened => Contract.Triple.pure _ fun _ _ attached opens => by
        rw [if_neg Bool.false_ne_true]
        exact attached opens
    apply consumer_act lasting_always
    intro world _always _counted _opened met
    have already : consumerId ∈ attachedIn world.events := met
    refine ⟨rfl, fun oracle result after _accepted performed => ?_⟩
    cases oracle <;> simp only [perform] at performed
    case opens valid =>
      split at performed
      · cases performed
        exact fun _ => mem_attachedIn_snoc.mpr (.inl already)
      · cases performed
        exact nofun
    all_goals cases performed
  · refine Contract.Triple.through (fun _ _ => Owns number consumerId) ?_
      fun _ => Contract.Triple.pure _ fun _ _ owns _ => owns
    apply consumer_act lasting_always
    intro world _always _counted opened met
    refine ⟨rfl, fun oracle result after _accepted performed => ?_⟩
    cases performed
    exact opened.owns rfl (opened.unopened met)

theorem attach_triple :
    ConsumerTriple .mmap number (fun _ => True) (attach number consumerId)
      (fun _ _ => True) := by
  refine Contract.Triple.bind (attachRing_triple lasting_always) fun _ =>
    consumer_choose (fun _ => Contract.Triple.bind newOrAttach_triple fun found => ?_)
      (fun _ => Contract.Triple.pure _ fun _ _ _ => trivial)
  obtain ⟨opened, isNewConsumer⟩ := found
  refine consumer_choose (fun opens => ?_) (fun _ => Contract.Triple.pure _ fun _ _ _ => trivial)
  cases isNewConsumer with
  | true =>
      refine Contract.Triple.bind
        (attachReadiness_triple.strengthen fun _ _ owns => owns opens) fun ready => ?_
      apply Contract.Triple.given (ready = true) (fun _ _ held => held.1)
      rintro rfl
      exact Contract.Triple.bind (signal_triple.strengthen fun _ _ held => held.2) fun _ =>
        Contract.Triple.bind returned_triple fun _ => Contract.Triple.pure _ fun _ _ _ => trivial
  | false =>
      refine Contract.Triple.bind ((consumer_quiet rfl lasting_attached).strengthen
        fun _ _ attached => attached opens) fun _ =>
        Contract.Triple.bind (Contract.Triple.pure _ fun _ _ attached => attached) fun _ =>
        Contract.Triple.bind returned_triple fun _ => Contract.Triple.pure _ fun _ _ _ => trivial

end MmapConsumer

def Settles (backend : Backend) (consumer : Consumer) : Prop :=
  backend = .sharedMemory → consumer.consumersReady = true

theorem holdConsumer_triple (consumer : Consumer) (settles : Settles backend consumer) :
    ConsumerTriple backend number (fun _ => True) (holdConsumer backend consumer)
      (fun _ _ => True) := by
  refine (Contract.Triple.repeat' (fun consumer _ _ => Settles backend consumer)
    (fun consumer => ?_) consumer).strengthen fun _ _ _ => settles
  apply Contract.Triple.given (Settles backend consumer) (fun _ _ held => held)
  intro settles
  refine Contract.Triple.bind ((consumer_quiet rfl lasting_always).strengthen
    fun _ _ _ => trivial) fun call => ?_
  cases call with
  | tryAttachCoordination =>
      refine Contract.Triple.through (fun again _ _ => again = consumer) ?_ fun again =>
        Contract.Triple.pure _ fun _ _ same => same ▸ settles
      cases backend with
      | sharedMemory =>
          exact consumer_choose (fun _ => Contract.Triple.pure _ fun _ _ _ => rfl)
            (fun unready => absurd (settles rfl) unready)
      | mmap => exact Contract.Triple.pure _ fun _ _ _ => rfl
  | detach => exact Contract.Triple.pure _ fun _ _ _ => trivial

theorem serveConsumer_triple :
    ConsumerTriple backend number (fun _ => True) (serveConsumer backend number)
      (fun _ _ => True) := by
  refine Contract.Triple.bind (consumer_quiet rfl lasting_always) fun consumerId =>
    Contract.Triple.through (fun attached _ _ => ∀ consumer, attached = some consumer →
      Settles backend consumer) ?_ fun attached => ?_
  · cases backend with
    | sharedMemory =>
        exact SharedConsumer.build_triple.weaken fun _ _ _ ready consumer found _ =>
          ready consumer found
    | mmap =>
        exact MmapConsumer.attach_triple.weaken fun _ _ _ _ _ _ impossible => nomatch impossible
  · cases attached with
    | none => exact Contract.Triple.pure _ fun _ _ _ => trivial
    | some consumer =>
        exact Contract.Triple.given (Settles backend consumer)
          (fun _ _ settles => settles consumer rfl) fun settles =>
          (holdConsumer_triple consumer settles).strengthen fun _ _ _ => trivial

end Consumer

/-! ### What the producer does -/

def Waiting (minConsumers : Int) (world : World) : Prop :=
  .initialised ∈ world.events ∧ ¬ SawEnough minConsumers world.events

def Settled (minConsumers : Int) (ready : Bool) (world : World) : Prop :=
  .initialised ∈ world.events ∧ (ready = true ↔ SawEnough minConsumers world.events)

section Producer

variable {backend : Backend} {before after : World}

theorem OthersAttach.initialised (attach : OthersAttach before after) :
    .initialised ∈ after.events ↔ .initialised ∈ before.events := by
  obtain ⟨more, grown, only⟩ := attach
  rw [grown, List.mem_append]
  exact or_iff_left fun member => Bool.false_ne_true (only _ member)

theorem OthersAttach.sawEnough (attach : OthersAttach before after) :
    SawEnough minConsumers after.events ↔ SawEnough minConsumers before.events := by
  obtain ⟨more, grown, only⟩ := attach
  rw [grown]
  clear grown
  induction more using List.reverseRecOn with
  | nil => rw [List.append_nil]
  | append_singleton more event ih =>
      have tells := only event (List.mem_append_right _ (List.mem_singleton_self _))
      rw [← List.append_assoc, sawEnough_other]
      · exact ih fun other member => only other (List.mem_append_left _ member)
      · rintro rfl
        cases tells
      · rintro other rfl
        cases tells

theorem OthersAttach.waiting (attach : OthersAttach before after)
    (waiting : Waiting minConsumers before) : Waiting minConsumers after :=
  ⟨attach.initialised.mpr waiting.1, fun saw => waiting.2 (attach.sawEnough.mp saw)⟩

theorem OthersAttach.settled (attach : OthersAttach before after) {ready : Bool}
    (settled : Settled minConsumers ready before) : Settled minConsumers ready after :=
  ⟨attach.initialised.mpr settled.1, settled.2.trans attach.sawEnough.symm⟩

theorem Waiting.timedOut (waiting : Waiting minConsumers before) :
    Settled minConsumers false before :=
  ⟨waiting.1, fun impossible => absurd impossible Bool.false_ne_true,
    fun saw => absurd saw waiting.2⟩

abbrev ProducerTriple (backend : Backend) {α : Type} (pre : World → Prop) (routine : Process α)
    (post : α → World → Prop) : Prop :=
  (readinessContract backend).Triple .producer (fun _ => pre) routine
    (fun result _ => post result)

theorem producer_act {pre : World → Prop} {action : Action} {post : action.Result → World → Prop}
    (stable : ∀ before after, OthersAttach before after → pre before → pre after)
    (kept : ∀ world, pre world → Counted world →
      Circumstances backend .producer () action world →
      readinessGuarantee .producer world action ∧
      ∀ oracle result after, perform action oracle world = some (result, after) →
        post result after) :
    ProducerTriple backend pre (act action) post :=
  Contract.Triple.perform fun _ world before holds relied kinds met =>
    kept before (stable world before relied holds) kinds.1 met

theorem producer_quiet {pre : World → Prop} {action : Action} (quiet : action.quiet = true)
    (stable : ∀ before after, OthersAttach before after → pre before → pre after) :
    ProducerTriple backend pre (act action) (fun _ => pre) := by
  apply producer_act stable
  intro world holds _counted _met
  constructor
  · cases action <;> trivial
  · intro oracle result after performed
    have same := (perform_quiet quiet performed).events
    refine stable world after ⟨[], same.trans (List.append_nil _).symm, ?_⟩ holds
    exact fun _ impossible => absurd impossible List.not_mem_nil

theorem writeInitial_triple :
    ProducerTriple backend (fun world => .initialised ∉ world.events) (act (.writeInitial 0))
      (fun _ world => .initialised ∈ world.events) := by
  apply producer_act
  · intro before after attach never member
    exact never (attach.initialised.mp member)
  · intro world never _counted _met
    refine ⟨⟨rfl, never, rfl⟩, fun oracle result after performed => ?_⟩
    obtain ⟨count, _there, done⟩ := Option.map_eq_some_iff.mp performed
    cases done
    exact List.mem_append_right _ (List.mem_singleton_self _)

theorem createProducer_triple :
    ProducerTriple backend (fun world => .initialised ∉ world.events) (createProducer backend)
      (fun owns world => owns = true ∧ .initialised ∈ world.events) := by
  have never : ∀ before after : World, OthersAttach before after →
      .initialised ∉ before.events → .initialised ∉ after.events :=
    fun _ _ attach never member => never (attach.initialised.mp member)
  have always : ∀ before after : World, OthersAttach before after →
      .initialised ∈ before.events → .initialised ∈ after.events :=
    fun _ _ attach member => attach.initialised.mpr member
  cases backend with
  | sharedMemory =>
      refine Contract.Triple.bind (producer_quiet rfl never) fun _ =>
        Contract.Triple.bind (producer_quiet rfl never) fun _ =>
        Contract.Triple.through (fun created _ world => created = true ∧
          .initialised ∉ world.events) ?_ fun created => ?_
      · apply producer_act never
        intro world still _counted met
        refine ⟨⟨rfl, still⟩, fun oracle result after performed => ?_⟩
        have unused : world.readiness = none := met
        simp only [perform, unused] at performed
        cases performed
        exact ⟨rfl, still⟩
      · apply Contract.Triple.given (created = true) (fun _ _ held => held.1)
        rintro rfl
        exact Contract.Triple.bind (writeInitial_triple.strengthen fun _ _ held => held.2)
          fun _ => Contract.Triple.pure _ fun _ _ begun => ⟨rfl, begun⟩
  | mmap =>
      refine Contract.Triple.through (fun _ _ world => .initialised ∉ world.events) ?_ fun _ =>
        Contract.Triple.bind writeInitial_triple fun _ =>
        Contract.Triple.bind (producer_quiet rfl always) fun _ =>
        Contract.Triple.bind (producer_quiet rfl always) fun _ =>
        Contract.Triple.pure _ fun _ _ begun => ⟨rfl, begun⟩
      apply producer_act never
      intro world still _counted _met
      refine ⟨⟨rfl, still⟩, fun oracle result after performed => ?_⟩
      cases performed
      exact still

/-- A look at the counter shows how many have attached. -/
theorem loadReadiness_triple :
    ProducerTriple backend (Waiting minConsumers) (act .loadReadiness)
      (fun (count : Int) => Settled minConsumers (decide (count ≥ minConsumers))) := by
  apply producer_act fun _ _ attach waiting => attach.waiting waiting
  intro world waiting counted _met
  refine ⟨rfl, fun oracle result after performed => ?_⟩
  obtain ⟨count, there, done⟩ := Option.map_eq_some_iff.mp performed
  rw [counted.count waiting.1] at there
  cases there
  cases done
  refine ⟨List.mem_append_left _ waiting.1, ?_⟩
  rw [decide_eq_true_iff]
  exact (sawEnough_looked.trans (or_iff_right waiting.2)).symm

theorem spinUntilReadyCount_triple (start timeout : Nat) :
    ProducerTriple backend (Waiting minConsumers) (spinUntilReadyCount minConsumers start timeout)
      (Settled minConsumers) := by
  refine Contract.Triple.repeat' (fun _ _ => Waiting minConsumers) (fun _ => ?_) ()
  refine Contract.Triple.bind (producer_quiet rfl fun _ _ attach => attach.waiting) fun now => ?_
  by_cases early : now - start < timeout
  · rw [if_pos early]
    refine Contract.Triple.bind loadReadiness_triple fun count => ?_
    by_cases enough : count ≥ minConsumers
    · rw [if_pos enough]
      refine Contract.Triple.pure _ fun _ _ settled => ?_
      have same : Settled minConsumers (decide (count ≥ minConsumers)) _ := settled
      rw [decide_eq_true enough] at same
      exact same
    · rw [if_neg enough]
      refine Contract.Triple.pure _ fun _ _ settled => ?_
      have same : Settled minConsumers (decide (count ≥ minConsumers)) _ := settled
      rw [decide_eq_false enough] at same
      exact ⟨same.1, fun saw => absurd (same.2.mpr saw) Bool.false_ne_true⟩
  · rw [if_neg early]
    exact Contract.Triple.pure _ fun _ _ waiting => waiting.timedOut

theorem expect_triple {pre : World → Prop} (condition : Prop) [Decidable condition]
    (stable : ∀ before after, OthersAttach before after → pre before → pre after) :
    ProducerTriple backend pre (expect condition) (fun _ => pre) := by
  unfold expect
  by_cases holds : condition
  · rw [if_pos holds]
    exact Contract.Triple.pure _ fun _ _ held => held
  · rw [if_neg holds]
    exact Contract.Triple.bind (producer_quiet rfl stable) fun never => nomatch never

theorem waitForConsumersReady_triple (timeout : Nat) :
    ProducerTriple backend (Waiting minConsumers)
      (waitForConsumersReady backend true minConsumers timeout) (Settled minConsumers) := by
  have stable : ∀ before after : World, OthersAttach before after →
      Waiting minConsumers before → Waiting minConsumers after :=
    fun _ _ attach => attach.waiting
  cases backend with
  | sharedMemory =>
      refine Contract.Triple.bind (expect_triple _ stable) fun _ =>
        Contract.Triple.bind (expect_triple _ stable) fun _ =>
        Contract.Triple.bind (producer_quiet rfl stable) fun start =>
        Contract.Triple.bind (spinUntilReadyCount_triple _ _) fun ready => ?_
      cases ready with
      | true => exact Contract.Triple.pure _ fun _ _ settled => settled
      | false =>
          -- The counter has not shown enough so far: the second spin begins as the first did.
          have again : ∀ world, Settled minConsumers false world → Waiting minConsumers world :=
            fun world settled => ⟨settled.1, fun saw =>
              absurd (settled.2.mpr saw) Bool.false_ne_true⟩
          rw [if_neg Bool.false_ne_true]
          by_cases more : min timeout
              (SharedConsumerBarrier.coordinationTimeoutFor minConsumers) < timeout
          · rw [if_pos more]
            exact (spinUntilReadyCount_triple _ _).strengthen fun _ => again
          · rw [if_neg more]
            exact Contract.Triple.pure _ fun _ _ settled => settled
  | mmap =>
      exact Contract.Triple.bind (expect_triple _ stable) fun _ =>
        Contract.Triple.bind (expect_triple _ stable) fun _ =>
        Contract.Triple.bind (producer_quiet rfl stable) fun start =>
        spinUntilReadyCount_triple _ _

theorem serveWait_triple :
    ProducerTriple backend (fun world => .initialised ∈ world.events) (serveWait backend true)
      (fun _ world => .initialised ∈ world.events) := by
  have always : ∀ before after : World, OthersAttach before after →
      .initialised ∈ before.events → .initialised ∈ after.events :=
    fun _ _ attach member => attach.initialised.mpr member
  refine Contract.Triple.bind (producer_quiet rfl always) fun request => ?_
  obtain ⟨minConsumers, timeout⟩ := request
  refine Contract.Triple.through (fun _ _ => Waiting minConsumers) ?_ fun _ =>
    Contract.Triple.bind (waitForConsumersReady_triple timeout) fun ready => ?_
  · apply producer_act always
    intro world begun _counted _met
    refine ⟨rfl, fun oracle result after performed => ?_⟩
    cases performed
    exact ⟨List.mem_append_left _ begun, not_sawEnough_waits⟩
  · apply producer_act fun _ _ attach => attach.settled
    intro world settled _counted _met
    refine ⟨⟨rfl, settled.2⟩, fun oracle result after performed => ?_⟩
    cases performed
    exact List.mem_append_left _ settled.1

end Producer

/-! ### Every run of a session -/

theorem readiness_upheld (backend : Backend) (leftOver : World) :
    (readinessContract backend).Upheld (start backend leftOver) := by
  have counted : Counted (start backend leftOver).world :=
    ⟨fun _ => rfl, fun impossible => absurd impossible List.not_mem_nil, throughout_nil⟩
  have opened : Opened (start backend leftOver).world :=
    ⟨fun _ _ impossible => absurd impossible List.not_mem_nil,
      fun _ impossible => absurd impossible (Finset.notMem_empty _),
      fun _ _ _ _ impossible => absurd impossible List.not_mem_nil⟩
  refine ⟨⟨counted, opened⟩, ?_⟩
  intro party fuel
  cases party with
  | process number => exact Contract.Triple.forever serveConsumer_triple trivial fuel _
  | producer =>
      refine Contract.Safe.bind _ (createProducer_triple () _ List.not_mem_nil fuel) ?_
      intro out after created remaining _fewer
      obtain ⟨owns, self⟩ := out
      obtain ⟨rfl, begun⟩ := created
      exact Contract.Triple.forever serveWait_triple begun remaining _

theorem SawEnough.attached (saw : SawEnough minConsumers events) :
    minConsumers ≤ (attachedIn events).card := by
  obtain ⟨earlier, later, rfl, _same, enough⟩ := saw
  apply le_trans enough
  apply Int.ofNat_le.mpr
  apply Finset.card_le_card
  intro consumerId member
  simp only [attachedIn, List.filterMap_append, List.mem_toFinset, List.mem_append] at member ⊢
  exact .inl member

section Example

def nothing : World :=
  { ring := false
    producerSequence := false
    readiness := none
    cursors := []
    clock := 0
    events := [] }

abbrev steps (party : Party) (oracles : List Oracle) : List (Move Party machine.Oracle) :=
  oracles.map (Move.step party)

def attaches (number : Nat) (consumerId : ConsumerId) : List (Move Party machine.Oracle) :=
  steps (.process number) [.silent, .consumer consumerId, .opens true, .opens true, .silent,
    .opens true, .silent, .silent]

def waitsForTwo : List (Move Party machine.Oracle) :=
  steps .producer [.silent, .wait 2 10, .silent, .elapsed 0, .silent, .elapsed 0, .silent, .silent]

def builds : List (Move Party machine.Oracle) :=
  steps .producer [.silent, .silent, .silent, .silent]

def twoAttach : List (Move Party machine.Oracle) :=
  builds ++ attaches 0 "first" ++ attaches 1 "second" ++ waitsForTwo

instance (party : Party) (self : Unit) (action : Action) (world : World) :
    Decidable (Circumstances .sharedMemory party self action world) := by
  unfold Circumstances
  split <;> infer_instance

instance (party : Party) (self : Unit) (action : Action) (oracle : machine.Oracle)
    (world : World) :
    Decidable (CounterOpens party self action oracle world) := by
  cases action
  case attachReadiness consumerId =>
    exact @instDecidableOr _ _ inferInstance (instDecidableEqOracle oracle (.opens true))
  all_goals exact .isTrue trivial

/-- The one consumer is dropped, and attaches once more. -/
def attachesTwice : List (Move Party machine.Oracle) :=
  builds ++ attaches 0 "first" ++
  steps (.process 0) [.silent, .call .detach, .silent, .consumer "first", .opens true,
    .opens true, .silent, .opens true, .opens true, .silent, .silent] ++ waitsForTwo

/-- The files of an earlier session with one consumer are still there. -/
def leftBehind : World :=
  { nothing with
    ring := true
    producerSequence := true
    readiness := some 1
    cursors := ["first"] }

def attachesUncounted : List (Move Party machine.Oracle) :=
  builds ++
  steps (.process 0) [.silent, .consumer "first", .opens true, .opens true, .opens true, .silent,
    .opens true, .opens true, .silent] ++
  steps .producer [.silent, .wait 1 10, .silent, .elapsed 9, .silent, .elapsed 9, .silent,
    .silent, .elapsed 9, .silent]

end Example

end Startup
