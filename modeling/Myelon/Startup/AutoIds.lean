/-
Ids that are handed out once, and the consumers that a scan finds.

The numbers of the counter belong to one thread each, and so do the ids. A scan looks for the
cursors of all numbers taken so far, but for those that are not expected: a consumer is found
if its number is smaller than the number of consumers that the producer expects.
-/

import Mathlib.Data.List.Nodup
import Std.Data.String.ToNat
import Myelon.Interleaving.RelyGuarantee
import Myelon.Ring.Discovery
import Myelon.Startup.Registration

namespace Startup.Registration

open Interleaving Delivery
open Ring (Backend ConsumerId Interface Self Transport Oracle)
open Ring.SharedConsumerBarrier (autoConsumerId)

theorem autoConsumerId_injective {first second : Nat}
    (same : autoConsumerId first = autoConsumerId second) : first = second :=
  Nat.repr_injective (String.append_right_inj _ |>.mp same)

/-! ### Who has got which id -/

def Event.party : Event → Party
  | .registered party _ => party
  | .attached party _ => party
  | .scanning => .producer

def Event.attached? : Event → Option ConsumerId
  | .attached _ consumerId => some consumerId
  | _ => none

def attachedIds (events : List Event) : List ConsumerId := events.filterMap Event.attached?

theorem mem_attachedIds {events : List Event} {consumerId : ConsumerId} :
    consumerId ∈ attachedIds events ↔ ∃ party, .attached party consumerId ∈ events := by
  unfold attachedIds
  rw [List.mem_filterMap]
  constructor
  · intro found
    obtain ⟨event, member, shown⟩ := found
    cases event with
    | attached party other =>
        cases shown
        exact ⟨party, member⟩
    | registered party slot => cases shown
    | scanning => cases shown
  · intro found
    obtain ⟨party, member⟩ := found
    exact ⟨_, member, rfl⟩

/-- The thread has taken a number, and nobody has opened a cursor under its id. -/
def Pending (party : Party) (slot : Nat) (events : List Event) : Prop :=
  .registered party slot ∈ events ∧ autoConsumerId slot ∉ attachedIds events

variable {interface : Interface}

structure Handed (world : World interface) : Prop where
  slots : ∀ party slot, .registered party slot ∈ world.2.events →
    0 ≤ slot ∧ ∃ count, world.2.registration = some count ∧ slot < count
  owner : ∀ first second slot, .registered first slot ∈ world.2.events →
    .registered second slot ∈ world.2.events → first = second
  attached : ∀ party consumerId, .attached party consumerId ∈ world.2.events →
    consumerId ∈ world.1.consumers ∧
    ∃ slot : Nat, .registered party slot ∈ world.2.events ∧ consumerId = autoConsumerId slot
  distinct : (attachedIds world.2.events).Nodup
  built : world.2.ring = true → world.2.registration ≠ none

def Reached (maxConsumers : Nat) (events : List Event) (consumerId : ConsumerId) : Prop :=
  (∃ slot < maxConsumers, consumerId = autoConsumerId slot) ∧ consumerId ∈ attachedIds events

/-- Whoever was reached when a scan began is known, but for those still to be looked for. -/
structure Sought (maxConsumers : Nat) (rest : List ConsumerId) (producer : Ring.Producer)
    (world : World interface) : Prop where
  mode : ∃ scanInterval,
    producer.consumerBarrier.discoveryMode = .enabled maxConsumers none scanInterval
  found : ∀ earlier later, world.2.events = earlier ++ .scanning :: later →
    ∀ consumerId, Reached maxConsumers earlier consumerId →
      consumerId ∈ producer.consumerBarrier.consumerCursors ∨ consumerId ∈ rest

/-! ### The contract of the registration -/

def CounterHolds : Party → Self → (signature interface).Action → World interface → Prop
  | _, _, .inr (.fetchAddRegistration _), world =>
      ∀ count, world.2.registration = some count → 0 ≤ count ∧ count + 1 < 2 ^ 63
  | _, _, _, _ => True

instance (party : Party) (self : Self) (action : (signature interface).Action)
    (world : World interface) : Decidable (CounterHolds party self action world) := by
  rcases action with _ | registering
  · exact isTrue trivial
  · cases registering with
    | fetchAddRegistration asking =>
        exact decidable_of_iff
          (∀ count ∈ world.2.registration, 0 ≤ count ∧ count + 1 < 2 ^ 63) Iff.rfl
    | _ => exact isTrue trivial

def guarantee (maxConsumers : Nat) (party : Party) (self : Self) :
    (signature interface).Action → World interface → Prop
  | .inl (mark, .newOrAttachConsumerSequence consumerId), world =>
      mark = party ∧ ∃ slot, Pending party slot world.2.events ∧ consumerId = autoConsumerId slot
  | .inl (_, .loadConsumerRegistration), _ => party = .producer
  | .inl (_, .attachConsumerSequence _), _ => True
  | .inl (_, .instantNow), _ => True
  | .inl _, _ => False
  | .inr (.fetchAddRegistration mark), _ => mark = party
  | .inr .createRing, world => world.2.registration ≠ none
  | .inr .next, world => party = .producer →
      ∃ producer, self = .producer producer ∧ Sought maxConsumers [] producer world
  | .inr _, _ => True

structure Relied (party : Party) (before after : World interface) : Prop where
  events : ∃ more, after.2.events = before.2.events ++ more ∧ ∀ event ∈ more, event.party ≠ party
  consumers : before.1.consumers ⊆ after.1.consumers
  registration : before.2.registration ≠ none → after.2.registration ≠ none

theorem Relied.refl (party : Party) (world : World interface) : Relied party world world where
  events := ⟨[], (List.append_nil _).symm, fun _ impossible => absurd impossible List.not_mem_nil⟩
  consumers := List.Subset.refl _
  registration := id

theorem Relied.trans {party : Party} {first second third : World interface}
    (left : Relied party first second) (right : Relied party second third) :
    Relied party first third where
  events := by
    obtain ⟨more, grown, others⟩ := left.events
    obtain ⟨further, grownFurther, othersFurther⟩ := right.events
    refine ⟨more ++ further, ?_, ?_⟩
    · rw [grownFurther, grown, List.append_assoc]
    · intro event member
      exact (List.mem_append.mp member).elim (others event) (othersFurther event)
  consumers := List.Subset.trans left.consumers right.consumers
  registration := right.registration ∘ left.registration

section Steps

variable {before after : World interface} {party : Party} {maxConsumers : Nat}

theorem Relied.recorded {event : Event} {other : Party}
    (grown : after.2.events = before.2.events ++ [event])
    (consumers : before.1.consumers ⊆ after.1.consumers)
    (registration : before.2.registration ≠ none → after.2.registration ≠ none)
    (different : event.party ≠ other) : Relied other before after where
  events := by
    refine ⟨[event], grown, ?_⟩
    intro recorded member
    rw [List.mem_singleton.mp member]
    exact different
  consumers := consumers
  registration := registration

theorem Relied.quiet {other : Party} (same : after.2.events = before.2.events)
    (consumers : before.1.consumers ⊆ after.1.consumers)
    (registration : before.2.registration ≠ none → after.2.registration ≠ none) :
    Relied other before after where
  events := ⟨[], same.trans (List.append_nil _).symm,
    fun _ impossible => absurd impossible List.not_mem_nil⟩
  consumers := consumers
  registration := registration

theorem Handed.same (handed : Handed before) (events : after.2.events = before.2.events)
    (consumers : before.1.consumers ⊆ after.1.consumers)
    (registration : ∀ count, before.2.registration = some count →
      after.2.registration = some count)
    (built : after.2.ring = true → after.2.registration ≠ none) : Handed after where
  slots := by
    rw [events]
    intro party slot member
    obtain ⟨low, count, there, less⟩ := handed.slots party slot member
    exact ⟨low, count, registration count there, less⟩
  owner := by
    rw [events]
    exact handed.owner
  attached := by
    rw [events]
    intro party consumerId member
    obtain ⟨opened, slot, taken⟩ := handed.attached party consumerId member
    exact ⟨consumers opened, slot, taken⟩
  distinct := by
    rw [events]
    exact handed.distinct
  built := built

theorem Handed.scanned (handed : Handed before) :
    Handed (before.1, before.2.record .scanning) where
  slots := by
    intro party slot member
    exact handed.slots party slot ((List.mem_append.mp member).resolve_right (by simp))
  owner := by
    intro first second slot one two
    exact handed.owner first second slot ((List.mem_append.mp one).resolve_right (by simp))
      ((List.mem_append.mp two).resolve_right (by simp))
  attached := by
    intro party consumerId member
    obtain ⟨opened, slot, taken, same⟩ :=
      handed.attached party consumerId ((List.mem_append.mp member).resolve_right (by simp))
    exact ⟨opened, slot, List.mem_append_left _ taken, same⟩
  distinct := by
    unfold attachedIds Registry.record
    rw [List.filterMap_append]
    exact (List.append_nil _).symm ▸ handed.distinct
  built := handed.built

theorem Handed.registered (handed : Handed before) {count : Int}
    (there : before.2.registration = some count) (low : 0 ≤ count) (small : count + 1 < 2 ^ 63) :
    Handed (before.1, Registry.record
      { before.2 with registration := some (Register.wrappingAdd count 1) }
      (.registered party count)) := by
  have next : Register.wrappingAdd count 1 = count + 1 := by
    unfold Register.wrappingAdd
    rw [Int.bmod_eq_of_le] <;> omega
  have fresh : ∀ other slot, .registered other slot ∈ before.2.events → slot < count := by
    intro other slot member
    obtain ⟨_low, found, same, less⟩ := handed.slots other slot member
    rw [there] at same
    cases same
    exact less
  constructor
  · intro other slot member
    rcases List.mem_append.mp member with earlier | here
    · exact ⟨(handed.slots other slot earlier).1, _, rfl, by
        rw [next]
        have less := fresh other slot earlier
        omega⟩
    · cases List.mem_singleton.mp here
      refine ⟨low, _, rfl, ?_⟩
      rw [next]
      omega
  · intro first second slot one two
    rcases List.mem_append.mp one with earlier | here
    · rcases List.mem_append.mp two with also | now
      · exact handed.owner first second slot earlier also
      · cases List.mem_singleton.mp now
        exact absurd (fresh first count earlier) (lt_irrefl _)
    · cases List.mem_singleton.mp here
      rcases List.mem_append.mp two with also | now
      · exact absurd (fresh second count also) (lt_irrefl _)
      · cases List.mem_singleton.mp now
        rfl
  · intro other consumerId member
    obtain ⟨opened, slot, taken, same⟩ :=
      handed.attached other consumerId ((List.mem_append.mp member).resolve_right (by simp))
    exact ⟨opened, slot, List.mem_append_left _ taken, same⟩
  · unfold attachedIds Registry.record
    rw [List.filterMap_append]
    exact (List.append_nil _).symm ▸ handed.distinct
  · intro _ring
    exact Option.some_ne_none _

theorem Handed.opened (handed : Handed before) {slot : Nat}
    (pending : Pending party slot before.2.events) {world : Ring.World interface}
    (consumers : before.1.consumers ⊆ world.consumers)
    (there : autoConsumerId slot ∈ world.consumers) :
    Handed (world, before.2.record (.attached party (autoConsumerId slot))) where
  slots := by
    intro other number member
    exact handed.slots other number ((List.mem_append.mp member).resolve_right (by simp))
  owner := by
    intro first second number one two
    exact handed.owner first second number ((List.mem_append.mp one).resolve_right (by simp))
      ((List.mem_append.mp two).resolve_right (by simp))
  attached := by
    intro other consumerId member
    rcases List.mem_append.mp member with earlier | here
    · obtain ⟨opened, number, taken, same⟩ := handed.attached other consumerId earlier
      exact ⟨consumers opened, number, List.mem_append_left _ taken, same⟩
    · cases List.mem_singleton.mp here
      exact ⟨there, slot, List.mem_append_left _ pending.1, rfl⟩
  distinct := by
    unfold attachedIds Registry.record
    rw [List.filterMap_append]
    refine handed.distinct.append (List.nodup_singleton _) ?_
    intro consumerId earlier here
    cases List.mem_singleton.mp here
    exact pending.2 earlier
  built := handed.built

theorem registration_performed {self : Self} {action : (signature interface).Action}
    {oracle : Oracle interface} {result : (signature interface).Result action}
    (handed : Handed before) (met : CounterHolds party self action before)
    (guaranteed : guarantee maxConsumers party self action before)
    (performed : perform action oracle before = some (result, after)) :
    Handed after ∧ ∀ other, other ≠ party → Relied other before after := by
  obtain ⟨world, registry⟩ := before
  have kept : ∀ other, other ≠ party → Relied other (world, registry) (world, registry) :=
    fun other _ => Relied.refl other _
  cases action with
  | inl marked =>
      obtain ⟨mark, action⟩ := marked
      cases action <;> first | exact guaranteed.elim | skip
      case loadConsumerRegistration =>
        have producer : party = .producer := guaranteed
        cases performed
        refine ⟨handed.scanned, fun other different => ?_⟩
        exact Relied.recorded rfl (List.Subset.refl _) id
          (fun same => different (same.symm.trans producer.symm))
      case attachConsumerSequence consumerId =>
        simp only [perform, Ring.perform] at performed
        split at performed <;> cases performed
        · exact ⟨handed.same rfl (List.Subset.refl _) (fun _ there => there) handed.built,
            fun other _ => .quiet rfl (List.Subset.refl _) id⟩
        · exact ⟨handed, kept⟩
      case instantNow =>
        cases oracle <;> cases performed
        exact ⟨handed.same rfl (List.Subset.refl _) (fun _ there => there) handed.built,
          fun other _ => .quiet rfl (List.Subset.refl _) id⟩
      case newOrAttachConsumerSequence consumerId =>
        obtain ⟨rfl, slot, pending, rfl⟩ := guaranteed
        simp only [perform, Ring.perform] at performed
        split at performed <;> cases performed
        · rename_i there
          exact ⟨handed.opened pending (List.Subset.refl _) there, fun other different =>
            .recorded rfl (List.Subset.refl _) id different.symm⟩
        · exact ⟨handed.opened pending (List.subset_cons_self _ _) List.mem_cons_self,
            fun other different =>
              .recorded rfl (List.subset_cons_self _ _) id different.symm⟩
  | inr action =>
      obtain ⟨⟨outcome, later⟩, done, same⟩ := Option.map_eq_some_iff.mp performed
      cases same
      cases action
      case newOrAttachRegistration =>
        cases done
        refine ⟨handed.same rfl (List.Subset.refl _) ?_ fun _ => Option.some_ne_none _,
          fun other _ => .quiet rfl (List.Subset.refl _) fun _ => Option.some_ne_none _⟩
        intro count there
        rw [there]
        rfl
      case createRing =>
        simp only [Registry.perform] at done
        split at done <;> cases done
        exact ⟨handed.same rfl (List.Subset.refl _) (fun _ there => there) fun _ => guaranteed,
          fun other _ => .quiet rfl (List.Subset.refl _) id⟩
      case createProducerSequence =>
        simp only [Registry.perform] at done
        split at done <;> cases done
        exact ⟨handed.same rfl (List.Subset.refl _) (fun _ there => there) handed.built,
          fun other _ => .quiet rfl (List.Subset.refl _) id⟩
      case fetchAddRegistration mark =>
        have own : mark = party := guaranteed
        subst own
        obtain ⟨count, there, taken⟩ := Option.map_eq_some_iff.mp done
        obtain ⟨rfl, rfl⟩ := Prod.mk.inj taken
        obtain ⟨low, small⟩ := met count there
        exact ⟨handed.registered there low small, fun other different =>
          .recorded rfl (List.Subset.refl _) (fun _ => Option.some_ne_none _) different.symm⟩
      case fetchAddConsumerCounter processId =>
        cases done
        exact ⟨handed.same rfl (List.Subset.refl _) (fun _ there => there) handed.built,
          fun other _ => .quiet rfl (List.Subset.refl _) id⟩
      all_goals
        cases done
        exact ⟨handed, kept⟩

end Steps

def contract (interface : Interface) (maxConsumers : Nat) : Contract (machine interface) where
  condition := CounterHolds
  guarantee := guarantee maxConsumers
  invariant := Handed
  rely := Relied
  relyRefl := Relied.refl
  relyTrans := Relied.trans
  performed := registration_performed
  restarted := fun _ impossible => absurd impossible (by simp [machine])

/-! ### What the threads do -/

section Threads

variable {number maxConsumers : Nat}

theorem Relied.pending {before after : World interface} {party : Party} {slot : Nat}
    (relied : Relied party before after) (handed : Handed after)
    (pending : Pending party slot before.2.events) : Pending party slot after.2.events := by
  obtain ⟨more, grown, others⟩ := relied.events
  have taken : .registered party slot ∈ after.2.events := by
    rw [grown]
    exact List.mem_append_left _ pending.1
  refine ⟨taken, fun used => ?_⟩
  obtain ⟨other, opened⟩ := mem_attachedIds.mp used
  obtain ⟨_there, found, by_other, same⟩ := handed.attached other _ opened
  obtain rfl := autoConsumerId_injective same
  have own : other = party := handed.owner other party _ by_other taken
  subst own
  rw [grown] at opened
  rcases List.mem_append.mp opened with earlier | later
  · exact pending.2 (mem_attachedIds.mpr ⟨_, earlier⟩)
  · exact others _ later rfl

theorem thread_act {pre : World interface → Prop} {action : Registering}
    {post : action.Result → World interface → Prop}
    (kept : ∀ world before, pre world → Relied (.thread number) world before → Handed before →
      guarantee maxConsumers (.thread number) (view ()) (.inr action) before ∧
      ∀ result after, before.2.perform action = some (result, after) →
        post result (before.1, after)) :
    (contract interface maxConsumers).Triple (.thread number) (fun _ => pre) (act action)
      (fun result _ => post result) := by
  apply @Contract.Triple.perform (signature interface) Self Party (World interface)
    (machine interface) (contract interface maxConsumers) (.thread number) Unit (fun _ => pre) view
    (.inr action) (fun result _ => post result)
  intro _self world before holds relied handed _met
  obtain ⟨guaranteed, following⟩ := kept world before holds relied handed
  refine ⟨guaranteed, fun oracle result after performed => ?_⟩
  obtain ⟨⟨outcome, later⟩, done, same⟩ := Option.map_eq_some_iff.mp performed
  cases same
  exact following outcome later done

/-- Where the ring is there, the counter is there, and a number comes from it. -/
theorem allocate_triple :
    (contract interface maxConsumers).Triple (.thread number)
      (fun _ world => world.2.registration ≠ none)
      (allocateRegisteredConsumerId (.thread number))
      (fun allocated _ world => ∃ slot, allocated = some (autoConsumerId slot) ∧
        Pending (.thread number) slot world.2.events) := by
  refine Contract.Triple.through (fun registration _ world => registration = true ∧
    world.2.registration ≠ none) ?_ fun registration => ?_
  · apply thread_act
    intro world before there relied _handed
    refine ⟨trivial, fun result after performed => ?_⟩
    have still := relied.registration there
    cases performed
    exact ⟨Option.isSome_iff_ne_none.mpr still, still⟩
  · apply Contract.Triple.assume (fun _ _ held => held.1)
    rintro rfl
    refine Contract.Triple.through (fun (slot : Int) _ world => 0 ≤ slot ∧
      Pending (.thread number) slot.toNat world.2.events) ?_ fun slot => ?_
    · apply @Contract.Triple.perform (signature interface) Self Party (World interface)
        (machine interface) (contract interface maxConsumers) (.thread number) Unit _ view
        (.inr (.fetchAddRegistration (.thread number)))
      intro _self world before held relied handed met
      refine ⟨rfl, fun oracle result after performed => ?_⟩
      obtain ⟨⟨outcome, later⟩, done, same⟩ := Option.map_eq_some_iff.mp performed
      cases same
      obtain ⟨count, there, taken⟩ := Option.map_eq_some_iff.mp done
      obtain ⟨rfl, rfl⟩ := Prod.mk.inj taken
      have low : 0 ≤ count := (met count there).1
      refine ⟨low, ?_, ?_⟩
      · change .registered (.thread number) (count.toNat : Int) ∈
          before.2.events ++ [.registered (.thread number) count]
        rw [Int.toNat_of_nonneg low]
        exact List.mem_append_right _ (List.mem_singleton_self _)
      · intro used
        obtain ⟨other, opened⟩ := mem_attachedIds.mp used
        obtain ⟨_opened, earlier, by_other, same⟩ := handed.attached other _
          ((List.mem_append.mp opened).resolve_right (by simp))
        obtain ⟨_low, found, here, less⟩ := handed.slots other _ by_other
        rw [there] at here
        cases here
        have equal := autoConsumerId_injective same
        omega
    · apply Contract.Triple.pure
      intro _self world held
      refine ⟨slot.toNat, ?_, held.2⟩
      rw [if_neg (Int.not_lt.mpr held.1)]

theorem buildConsumer_triple (processId : Nat) :
    (contract interface maxConsumers).Triple (.thread number) (fun _ _ => True)
      (buildConsumer processId (.thread number)) (fun _ _ _ => True) := by
  refine Contract.Triple.through (fun ring _ world => ring = true →
    world.2.registration ≠ none) ?_ fun ring => ?_
  · apply thread_act
    intro world before _held _relied handed
    refine ⟨trivial, fun result after performed => ?_⟩
    cases performed
    exact handed.built
  by_cases there : ring = true
  · rw [if_pos there]
    refine Contract.Triple.through (fun _ _ world => world.2.registration ≠ none) ?_
      fun producerSequence => ?_
    · apply thread_act
      intro world before held relied _handed
      refine ⟨trivial, fun result after performed => ?_⟩
      cases performed
      exact relied.registration (held there)
    by_cases attached : producerSequence = true
    · rw [if_pos attached]
      refine Contract.Triple.through (fun consumerId _ world => ∃ slot,
        consumerId = autoConsumerId slot ∧ Pending (.thread number) slot world.2.events) ?_
        fun consumerId => ?_
      · refine Contract.Triple.bind allocate_triple fun allocated => ?_
        cases allocated with
        | some consumerId =>
            apply Contract.Triple.pure
            intro _self world held
            obtain ⟨slot, same, pending⟩ := held
            cases same
            exact ⟨slot, rfl, pending⟩
        | none =>
            apply Contract.Triple.given False
            · intro _self world held
              obtain ⟨slot, same, _pending⟩ := held
              cases same
            · exact False.elim
      · refine Contract.Triple.through (fun _ _ _ => True) ?_ fun _ =>
          Contract.Triple.pure _ fun _ _ _ => trivial
        apply @Contract.Triple.perform (signature interface) Self Party (World interface)
          (machine interface) (contract interface maxConsumers) (.thread number) Unit _ view
          (.inl (.thread number, .newOrAttachConsumerSequence consumerId))
        intro _self world before held relied handed _met
        obtain ⟨slot, same, pending⟩ := held
        exact ⟨⟨rfl, slot, relied.pending handed pending, same⟩, fun _ _ _ _ => trivial⟩
    · rw [if_neg attached]
      exact Contract.Triple.pure _ fun _ _ _ => trivial
  · rw [if_neg there]
    exact Contract.Triple.pure _ fun _ _ _ => trivial

theorem serveConsumer_triple (processId : Nat) :
    (contract interface maxConsumers).Triple (.thread number) (fun _ _ => True)
      (serveConsumer processId (.thread number)) (fun _ _ _ => True) := by
  refine Contract.Triple.through (fun _ _ _ => True) ?_ fun _ => buildConsumer_triple processId
  apply thread_act
  intro _world _before _held _relied _handed
  refine ⟨fun isProducer => ?_, fun _ _ _ => trivial⟩
  cases isProducer

end Threads

/-! ### What a scan finds -/

section Producer

variable {maxConsumers : Nat} {rest more : List ConsumerId} {producer : Ring.Producer}
variable {before after : World interface} {α β : Type}

theorem Sought.weaken (sought : Sought maxConsumers rest producer before)
    (grows : ∀ consumerId ∈ rest, consumerId ∈ more) :
    Sought maxConsumers more producer before where
  mode := sought.mode
  found := fun earlier later split consumerId reached =>
    (sought.found earlier later split consumerId reached).imp_right (grows consumerId)

theorem Sought.unscanned (sought : Sought maxConsumers rest producer before) {added : List Event}
    (grown : after.2.events = before.2.events ++ added) (unscanned : .scanning ∉ added) :
    Sought maxConsumers rest producer after where
  mode := sought.mode
  found := by
    rw [grown]
    clear grown
    induction added using List.reverseRecOn with
    | nil =>
        rw [List.append_nil]
        exact sought.found
    | append_singleton added event ih =>
        intro earlier later split
        rw [← List.append_assoc] at split
        rcases snoc_split.mp split with ⟨_end, _front, rfl⟩ | ⟨fewer, _end, front⟩
        · exact absurd (List.mem_append_right _ (List.mem_singleton_self _)) unscanned
        · exact ih (fun member => unscanned (List.mem_append_left _ member)) earlier fewer front

theorem Sought.stable (sought : Sought maxConsumers rest producer before)
    (relied : Relied .producer before after) : Sought maxConsumers rest producer after := by
  obtain ⟨added, grown, others⟩ := relied.events
  exact sought.unscanned grown fun member => others _ member rfl

theorem Sought.insert {consumerId : ConsumerId}
    (sought : Sought maxConsumers (consumerId :: rest) producer before) :
    Sought maxConsumers rest
      { producer with
        consumerBarrier := Ring.ConsumerBarrier.insert producer.consumerBarrier consumerId }
      before where
  mode := sought.mode
  found := by
    intro earlier later split other reached
    rcases sought.found earlier later split other reached with known | waiting
    · exact .inl (List.mem_cons_of_mem _ known)
    rcases List.mem_cons.mp waiting with rfl | waiting
    · exact .inl List.mem_cons_self
    · exact .inr waiting

theorem Sought.dismiss {consumerId : ConsumerId}
    (sought : Sought maxConsumers (consumerId :: rest) producer before)
    (needless : consumerId ∈ producer.consumerBarrier.consumerCursors ∨
      consumerId ∉ attachedIds before.2.events) : Sought maxConsumers rest producer before where
  mode := sought.mode
  found := by
    intro earlier later split other reached
    rcases sought.found earlier later split other reached with known | waiting
    · exact .inl known
    rcases List.mem_cons.mp waiting with rfl | waiting
    · refine .inl (needless.resolve_right fun never => never ?_)
      rw [split, attachedIds, List.filterMap_append]
      exact List.mem_append_left _ reached.2
    · exact .inr waiting

abbrev Finds (interface : Interface) (maxConsumers : Nat)
    (pre : Ring.Producer → World interface → Prop)
    (routine : Ring.ProducerProcess interface α)
    (post : α → Ring.Producer → World interface → Prop) : Prop :=
  (contract interface maxConsumers).Triple .producer pre (routine.marked registering .producer) post

namespace Finds

variable {pre : Ring.Producer → World interface → Prop}

theorem bind (middle : α → Ring.Producer → World interface → Prop)
    {routine : Ring.ProducerProcess interface α} {later : α → Ring.ProducerProcess interface β}
    {post : β → Ring.Producer → World interface → Prop}
    (early : Finds interface maxConsumers pre routine middle)
    (continues : ∀ value, Finds interface maxConsumers (middle value) (later value) post) :
    Finds interface maxConsumers pre (routine >>= later) post := by
  unfold Finds
  rw [Routine.marked_bind]
  exact Contract.Triple.bind early continues

theorem pure (value : α) {post : α → Ring.Producer → World interface → Prop}
    (holds : ∀ producer world, pre producer world → post value producer world) :
    Finds interface maxConsumers pre (Pure.pure value) post :=
  Contract.Triple.pure value holds

theorem current :
    Finds interface maxConsumers pre Ring.ConsumerBarrier.current
      (fun (barrier : Ring.ConsumerBarrier) producer world =>
        barrier = producer.consumerBarrier ∧ pre producer world) := by
  intro producer world holds fuel
  cases fuel with
  | zero => trivial
  | succ fuel => exact ⟨rfl, holds⟩

theorem update {change : Ring.ConsumerBarrier → Ring.ConsumerBarrier}
    {post : Ring.Producer → World interface → Prop}
    (holds : ∀ producer world, pre producer world →
      post { producer with consumerBarrier := change producer.consumerBarrier } world) :
    Finds interface maxConsumers pre (Ring.ConsumerBarrier.update change) (fun _ => post) := by
  intro producer world held fuel
  cases fuel with
  | zero => trivial
  | succ fuel => exact holds producer world held

theorem act {action : Ring.Action interface}
    {post : action.Result → Ring.Producer → World interface → Prop}
    (kept : ∀ producer world before, pre producer world → Relied .producer world before →
      Handed before →
      guarantee maxConsumers .producer (.producer producer) (.inl (.producer, action)) before ∧
      ∀ oracle result after,
        perform (.inl (.producer, action)) oracle before = some (result, after) →
        post result producer after) :
    Finds interface maxConsumers pre (Ring.act action) post := by
  apply @Contract.Triple.perform (signature interface) Self Party (World interface)
    (machine interface) (contract interface maxConsumers) .producer Ring.Producer pre Self.producer
    (.inl (.producer, action)) post
  intro producer world before holds relied handed _met
  exact kept producer world before holds relied handed

theorem eachOf (kept : List β → Ring.Producer → World interface → Prop)
    {body : β → Ring.ProducerProcess interface Unit} (items : List β)
    (item : ∀ item rest,
      Finds interface maxConsumers (kept (item :: rest)) (body item) (fun _ => kept rest)) :
    Finds interface maxConsumers (kept items) (Routine.each body items) (fun _ => kept []) := by
  induction items with
  | nil => exact pure () (fun _ _ holds => holds)
  | cons first rest ih => exact bind _ (item first rest) (fun _ => ih)

end Finds

theorem discoverConsumerId_finds (consumerId : ConsumerId) (rest : List ConsumerId) :
    Finds interface maxConsumers (Sought maxConsumers (consumerId :: rest))
      (Ring.ConsumerBarrier.discoverConsumerId consumerId)
      (fun _ => Sought maxConsumers rest) := by
  refine Finds.bind _ Finds.current fun barrier => ?_
  by_cases known : consumerId ∈ barrier.consumerCursors
  · rw [if_pos known]
    apply Finds.pure
    intro producer world held
    obtain ⟨rfl, sought⟩ := held
    exact sought.dismiss (.inl known)
  · rw [if_neg known]
    refine Finds.bind (fun (attached : Bool) producer world =>
      if attached = true then Sought maxConsumers (consumerId :: rest) producer world
      else Sought maxConsumers rest producer world) ?_ fun attached => ?_
    · apply Finds.act
      intro producer world before held relied handed
      refine ⟨trivial, fun oracle result after performed => ?_⟩
      have sought := held.2.stable relied
      simp only [perform, Ring.perform] at performed
      split at performed <;> cases performed
      · exact sought.unscanned (List.append_nil _).symm List.not_mem_nil
      · rename_i absent
        apply sought.dismiss
        right
        intro opened
        obtain ⟨party, member⟩ := mem_attachedIds.mp opened
        exact absent (handed.attached party consumerId member).1
    · cases attached with
      | true =>
          refine Finds.bind _ (Finds.update fun producer world sought => Sought.insert sought)
            fun _ => Finds.pure _ fun _ _ sought => sought
      | false => exact Finds.pure _ fun _ _ sought => sought

theorem discoverNames_finds (names : List ConsumerId) :
    Finds interface maxConsumers (Sought maxConsumers names)
      (Ring.ConsumerBarrier.discoverNames names) (fun _ => Sought maxConsumers []) := by
  apply Finds.eachOf (Sought maxConsumers) names
  intro consumerId rest
  exact Finds.bind _ (discoverConsumerId_finds consumerId rest)
    fun _ => Finds.pure _ fun _ _ sought => sought

def expectedIds (maxConsumers : Nat) : Option Int → List ConsumerId
  | none => []
  | some registered => (List.range (min (max registered 0) maxConsumers).toNat).map autoConsumerId

theorem discoverWithRegisteredSlots_finds :
    Finds interface maxConsumers (Sought maxConsumers [])
      (Ring.SharedConsumerBarrier.discoverWithRegisteredSlots maxConsumers)
      (fun _ => Sought maxConsumers []) := by
  refine Finds.bind
    (fun registration => Sought maxConsumers (expectedIds maxConsumers registration)) ?_
    fun registration => ?_
  · apply Finds.act
    intro producer world before held relied handed
    refine ⟨rfl, fun oracle result after performed => ?_⟩
    have sought := held.stable relied
    cases performed
    refine ⟨sought.mode, ?_⟩
    intro earlier later split consumerId reached
    rcases snoc_split.mp split with ⟨_end, same, _scan⟩ | ⟨fewer, _end, front⟩
    · -- This scan: the number is smaller than what the counter shows.
      right
      obtain ⟨⟨slot, expected, rfl⟩, opened⟩ := reached
      rw [← same] at opened
      obtain ⟨party, member⟩ := mem_attachedIds.mp opened
      obtain ⟨_opened, number, taken, equal⟩ := handed.attached party _ member
      obtain rfl := autoConsumerId_injective equal
      obtain ⟨_low, count, there, less⟩ := handed.slots party slot taken
      rw [there]
      apply List.mem_map_of_mem
      rw [List.mem_range]
      omega
    · exact (sought.found earlier fewer front consumerId reached).imp_right
        fun impossible => absurd impossible List.not_mem_nil
  · cases registration with
    | none => exact Finds.pure _ fun _ _ sought => sought
    | some registered =>
        exact Finds.bind _ (discoverNames_finds _) fun _ =>
          Finds.pure _ fun _ _ sought => sought

theorem discoverWithPidBasedScanning_finds (transport : Transport) :
    Finds interface maxConsumers (Sought maxConsumers [])
      (Ring.SharedConsumerBarrier.discoverWithPidBasedScanning transport)
      (fun _ => Sought maxConsumers []) := by
  refine Finds.bind _ Finds.current fun barrier => ?_
  apply (discoverNames_finds _).strengthen
  intro producer world held
  exact held.2.weaken fun _ impossible => absurd impossible List.not_mem_nil

theorem discoverConsumers_finds (transport : Transport) :
    Finds interface maxConsumers (Sought maxConsumers [])
      (Ring.SharedConsumerBarrier.discoverConsumers transport)
      (fun _ => Sought maxConsumers []) := by
  refine Finds.bind (fun (_ : Nat) => Sought maxConsumers []) ?_ fun now => ?_
  · apply Finds.act
    intro producer world before held relied _handed
    refine ⟨trivial, fun oracle result after performed => ?_⟩
    have sought := held.stable relied
    cases oracle <;> cases performed
    exact sought.unscanned (List.append_nil _).symm List.not_mem_nil
  refine Finds.bind _ Finds.current fun barrier => ?_
  apply Contract.Triple.given (∃ scanInterval,
    barrier.discoveryMode = .enabled maxConsumers none scanInterval)
  · intro producer world held
    rw [held.1]
    exact held.2.mode
  intro mode
  obtain ⟨scanInterval, mode⟩ := mode
  rcases plan : Ring.SharedConsumerBarrier.discoveryScanPlan barrier now with
    ⟨shouldScan, expected, consumerPrefix⟩
  cases shouldScan with
  | false => exact Finds.pure _ fun _ _ held => held.2
  | true =>
      obtain ⟨rfl, rfl⟩ : expected = maxConsumers ∧ consumerPrefix = none := by
        simp only [Ring.SharedConsumerBarrier.discoveryScanPlan, mode] at plan
        split at plan
        · cases plan
        split at plan
        · cases plan
        split at plan <;> cases plan
        exact ⟨rfl, rfl⟩
      refine Finds.bind (fun _ => Sought expected []) (Finds.update fun producer world held =>
        ⟨held.2.mode, held.2.found⟩) fun _ => Finds.bind (fun _ => Sought expected []) ?_ fun _ =>
        Finds.update fun producer world sought => ?_
      · refine Finds.bind _ discoverWithRegisteredSlots_finds fun registeredSlots =>
          Finds.bind _ Finds.current fun _ => ?_
        split
        · exact (discoverWithPidBasedScanning_finds transport).strengthen fun _ _ held => held.2
        · exact Finds.pure _ fun _ _ held => held.2
      · split
        · exact ⟨sought.mode, sought.found⟩
        · exact sought

theorem producer_act {action : Registering} {pre : Ring.Producer → World interface → Prop}
    {post : action.Result → Ring.Producer → World interface → Prop}
    (kept : ∀ producer world before, pre producer world → Relied .producer world before →
      guarantee maxConsumers .producer (.producer producer) (.inr action) before ∧
      ∀ result after, before.2.perform action = some (result, after) →
        post result producer (before.1, after)) :
    (contract interface maxConsumers).Triple .producer pre (producerAct action) post := by
  apply @Contract.Triple.perform (signature interface) Self Party (World interface)
    (machine interface) (contract interface maxConsumers) .producer Ring.Producer pre Self.producer
    (.inr action) post
  intro producer world before holds relied _handed _met
  obtain ⟨guaranteed, following⟩ := kept producer world before holds relied
  refine ⟨guaranteed, fun oracle result after performed => ?_⟩
  obtain ⟨⟨outcome, later⟩, done, same⟩ := Option.map_eq_some_iff.mp performed
  cases same
  exact following outcome later done

theorem buildProducer_triple (transport : Transport) :
    (contract interface maxConsumers).Triple .producer (Sought maxConsumers [])
      (buildProducer transport) (fun _ => Sought maxConsumers []) := by
  refine Contract.Triple.through (fun _ producer world => world.2.registration ≠ none ∧
    Sought maxConsumers [] producer world) ?_ fun _ => ?_
  · apply producer_act
    intro producer world before sought relied
    refine ⟨trivial, fun result after performed => ?_⟩
    cases performed
    exact ⟨Option.some_ne_none _,
      (sought.stable relied).unscanned (List.append_nil _).symm List.not_mem_nil⟩
  refine Contract.Triple.through (fun _ => Sought maxConsumers []) ?_ fun _ =>
    Contract.Triple.through (fun _ => Sought maxConsumers []) ?_ fun _ =>
    discoverConsumers_finds transport
  · apply producer_act
    intro producer world before held relied
    refine ⟨relied.registration held.1, fun result after performed => ?_⟩
    simp only [Registry.perform] at performed
    split at performed <;> cases performed
    exact (held.2.stable relied).unscanned (List.append_nil _).symm List.not_mem_nil
  · apply producer_act
    intro producer world before sought relied
    refine ⟨trivial, fun result after performed => ?_⟩
    simp only [Registry.perform] at performed
    split at performed <;> cases performed
    exact (sought.stable relied).unscanned (List.append_nil _).symm List.not_mem_nil

/-- Between two scans nobody is still to be looked for. -/
theorem serveDiscovery_triple (transport : Transport) :
    (contract interface maxConsumers).Triple .producer (Sought maxConsumers [])
      (serveDiscovery transport) (fun _ => Sought maxConsumers []) := by
  refine Contract.Triple.through (fun _ => Sought maxConsumers []) ?_ fun _ =>
    discoverConsumers_finds transport
  apply producer_act
  intro producer world before sought relied
  have still := sought.stable relied
  refine ⟨fun _ => ⟨producer, rfl, still⟩, fun result after performed => ?_⟩
  cases performed
  exact still

end Producer

/-! ### Every run of the registration -/

variable {transport : Transport} {processIds : Nat → Nat} {maxConsumers scanInterval : Nat}
variable {world : Ring.World interface} {registration : Option Int}
variable {moves : List (Move Party (Oracle interface))} {state : State interface}

theorem registration_upheld : (contract interface maxConsumers).Upheld
    (start transport processIds maxConsumers scanInterval world registration) where
  invariant :=
    { slots := fun _ _ impossible => absurd impossible List.not_mem_nil
      owner := fun _ _ _ impossible => absurd impossible List.not_mem_nil
      attached := fun _ _ impossible => absurd impossible List.not_mem_nil
      distinct := List.nodup_nil
      built := fun impossible => absurd impossible Bool.false_ne_true }
  safe := by
    intro party fuel
    cases party with
    | thread number =>
        exact Contract.Triple.forever (serveConsumer_triple (processIds number)) trivial fuel _
    | producer =>
        have unscanned : Sought maxConsumers [] (expecting transport maxConsumers scanInterval)
            (start transport processIds maxConsumers scanInterval world registration).world :=
          { mode := ⟨scanInterval, rfl⟩
            found := fun earlier later split => absurd split (by simp [start]) }
        refine Contract.Safe.bind _ (buildProducer_triple transport _ _ unscanned fuel) ?_
        intro out after sought remaining _fewer
        exact Contract.Triple.forever (serveDiscovery_triple transport) sought remaining _

/-- As long as the counter has not run over, every consumer has the id of a number of its own.
After a scan every consumer is known that had opened its cursor before, if the producer expects
its number. -/
theorem auto_ids_found
    (met : (machine interface).Meets CounterHolds
      (start transport processIds maxConsumers scanInterval world registration) moves)
    (ran : (machine interface).run
      (start transport processIds maxConsumers scanInterval world registration) moves =
        some state) :
    (attachedIds state.world.2.events).Nodup ∧
    (∀ party consumerId, .attached party consumerId ∈ state.world.2.events →
      ∃ slot : Nat, .registered party slot ∈ state.world.2.events ∧
        consumerId = autoConsumerId slot) ∧
    ∀ producer, state.AboutTo .producer (.producer producer) (.inr .next) →
      ∀ earlier later, state.world.2.events = earlier ++ .scanning :: later →
      ∀ party, ∀ slot < maxConsumers, .attached party (autoConsumerId slot) ∈ earlier →
        autoConsumerId slot ∈ producer.consumerBarrier.consumerCursors := by
  have upheld := registration_upheld.run
    (fun _ _ _ _ _ impossible => absurd impossible (by simp [machine])) met
    (Machine.accepts_always (fun _ _ _ _ _ => trivial) _ _) ran
  refine ⟨upheld.invariant.distinct, fun party consumerId opened =>
    (upheld.invariant.attached party consumerId opened).2, ?_⟩
  intro producer about earlier later split party slot expected opened
  obtain ⟨other, same, sought⟩ := upheld.guaranteed about trivial rfl
  cases same
  have reached : Reached maxConsumers earlier (autoConsumerId slot) :=
    ⟨⟨slot, expected, rfl⟩, mem_attachedIds.mpr ⟨party, opened⟩⟩
  exact (sought.found earlier later split _ reached).resolve_right List.not_mem_nil

/-! ### Two consumers, and a producer that expects both or only one -/

section Example

open Ring (plain twoSlots)

/-- No session came before, and the producer looks at once. -/
abbrev startExpecting (maxConsumers : Nat) : State (plain Nat) :=
  start twoSlots id maxConsumers 0 (Ring.World.initial fun _ => (0 : Nat)) none

abbrev silently (party : Party) (count : Nat) : List (Move Party (Oracle (plain Nat))) :=
  List.replicate count (.step party .silent)

/-- The ring is there, and the first consumer comes and goes before the second one comes. -/
def bothRegister : List (Move Party (Oracle (plain Nat))) :=
  silently .producer 3 ++ silently (.thread 0) 8 ++ silently (.thread 1) 7

def scans (count : Nat) : List (Move Party (Oracle (plain Nat))) :=
  .step .producer (.elapsed 1) :: silently .producer (count + 2)

def resting (state : State (plain Nat)) (party : Party) : Option Self :=
  match state.program party with
  | .act self (.inr .next) _ => some self
  | _ => none

theorem resting_aboutTo {state : State (plain Nat)} {party : Party} {self : Self}
    (found : resting state party = some self) : state.AboutTo party self (.inr .next) := by
  unfold resting at found
  split at found
  · rename_i placed
    cases found
    exact ⟨_, placed⟩
  · cases found

/-- The cursors that the producer knows between two scans. -/
def knownBetweenScans (state : State (plain Nat)) : Option (List ConsumerId) :=
  (resting state .producer).bind fun
    | .producer producer => some producer.consumerBarrier.consumerCursors
    | _ => none

theorem knownBetweenScans_aboutTo {state : State (plain Nat)} {known : List ConsumerId}
    (found : knownBetweenScans state = some known) : ∃ producer : Ring.Producer,
      state.AboutTo .producer (.producer producer) (.inr .next) ∧
      producer.consumerBarrier.consumerCursors = known := by
  obtain ⟨self, rested, shown⟩ := Option.bind_eq_some_iff.mp found
  split at shown
  · cases shown
    exact ⟨_, resting_aboutTo rested, rfl⟩
  · cases shown

theorem auto_ids_found_both : ∃ state producer,
    (machine (plain Nat)).run (startExpecting 2) (bothRegister ++ scans 2) = some state ∧
    state.AboutTo .producer (.producer producer) (.inr .next) ∧
    attachedIds state.world.2.events = [autoConsumerId 0, autoConsumerId 1] ∧
    autoConsumerId 1 ∈ producer.consumerBarrier.consumerCursors := by
  have found : ((machine (plain Nat)).run (startExpecting 2) (bothRegister ++ scans 2)).any
      (fun state => (knownBetweenScans state).isSome && decide (state.world.2.events =
        [.registered (.thread 0) 0, .attached (.thread 0) (autoConsumerId 0),
          .registered (.thread 1) 1, .attached (.thread 1) (autoConsumerId 1)] ++
          [.scanning])) = true := by
    decide +kernel
  have checked : (machine (plain Nat)).checks CounterHolds (startExpecting 2)
      (bothRegister ++ scans 2) = true := by
    decide +kernel
  obtain ⟨state, ran, both⟩ := (Option.any_eq_true _ _).mp found
  rw [Bool.and_eq_true, decide_eq_true_iff] at both
  obtain ⟨known, rests⟩ := Option.isSome_iff_exists.mp both.1
  obtain ⟨producer, about, _same⟩ := knownBetweenScans_aboutTo rests
  have met : (machine (plain Nat)).Meets CounterHolds (startExpecting 2)
      (bothRegister ++ scans 2) :=
    Machine.meets_of_checks checked
  refine ⟨state, producer, ran, about, ?_, ?_⟩
  · rw [both.2]
    rfl
  · exact (auto_ids_found met ran).2.2 producer about _ [] both.2 (.thread 1) 1 (by decide)
      (by simp)

/-- The first consumer has ended, and the second has come in its place. Both had opened their
cursors when the scan began, and the producer does not know the second one. -/
theorem replacement_not_found : ∃ state producer,
    (machine (plain Nat)).run (startExpecting 1) (bothRegister ++ scans 1) = some state ∧
    state.AboutTo .producer (.producer producer) (.inr .next) ∧
    (∃ self, state.AboutTo (.thread 0) self (.inr .next)) ∧
    state.world.2.events =
      [.registered (.thread 0) 0, .attached (.thread 0) (autoConsumerId 0),
        .registered (.thread 1) 1, .attached (.thread 1) (autoConsumerId 1), .scanning] ∧
    autoConsumerId 1 ∉ producer.consumerBarrier.consumerCursors := by
  have found : ((machine (plain Nat)).run (startExpecting 1) (bothRegister ++ scans 1)).any
      (fun state => decide (knownBetweenScans state = some [autoConsumerId 0]) &&
        (resting state (.thread 0)).isSome && decide (state.world.2.events =
          [.registered (.thread 0) 0, .attached (.thread 0) (autoConsumerId 0),
            .registered (.thread 1) 1, .attached (.thread 1) (autoConsumerId 1),
            .scanning])) = true := by
    decide +kernel
  obtain ⟨state, ran, both⟩ := (Option.any_eq_true _ _).mp found
  simp only [Bool.and_eq_true, decide_eq_true_iff] at both
  obtain ⟨producer, about, known⟩ := knownBetweenScans_aboutTo both.1.1
  obtain ⟨self, rests⟩ := Option.isSome_iff_exists.mp both.1.2
  refine ⟨state, producer, ran, about, ⟨self, resting_aboutTo rests⟩, both.2, ?_⟩
  rw [known]
  decide

end Example

end Startup.Registration
