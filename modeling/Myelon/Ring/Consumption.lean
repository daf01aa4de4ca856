/-
Calls that a consumer makes one after the other, in any run.

Whatever the calls are, and whatever the producer does between their polls, the consumer is
given the events behind the cursor it started from, in order and each of them once.
-/

import Myelon.Ring.Delivering
import Myelon.Ring.LateJoin

namespace Ring

open Interleaving Delivery

/-- A run, and two moments of it at which the same incarnation of a consumer is asked for
the next call. -/
structure Consumption (transport : Transport) (Value : Type) where
  passes : DirectoryPasses
  consumerCounters : ConsumerCounters
  slots : Nat → Value
  producer : Producer
  attached : List ConsumerId
  joining : List ConsumerId
  consumerId : ConsumerId
  earlier : List (Move Party (Oracle (delivering Value)))
  moves : List (Move Party (Oracle (delivering Value)))
  before : (deliveringApplication transport Value consumerCounters).State
  after : (deliveringApplication transport Value consumerCounters).State
  first : Consumer
  last : Consumer
  /-- What the calls in between have handed over. -/
  calls : List (Handed Value)
  fresh : producer.Fresh transport
  known : producer.consumerBarrier.consumerCursors ⊆ attached
  reached : ((deliveringApplication transport Value consumerCounters).machine passes).run
    ((deliveringApplication transport Value consumerCounters).start slots producer attached
      joining) earlier = some before
  continued : ((deliveringApplication transport Value consumerCounters).machine passes).run
    before moves = some after
  uninterrupted : Move.crash (.consumer consumerId) ∉ moves
  begins : before.AboutTo (.consumer consumerId) (.consumer first)
    (.nextConsumerRequest consumerId)
  ends : after.AboutTo (.consumer consumerId) (.consumer last) (.nextConsumerRequest consumerId)
  made : outputs (after.world.events consumerId) =
    outputs (before.world.events consumerId) ++ calls

namespace Handed

variable {Value : Type}

def count (handed : Handed Value) : Option Nat :=
  match handed.answer with
  | .processed count => some count
  | _ => none

end Handed

namespace Consumption

variable {transport : Transport} {Value : Type} (consumption : Consumption transport Value)

def start : Int := consumption.before.world.consumerSequence consumption.consumerId

def cursor : Int := consumption.after.world.consumerSequence consumption.consumerId

def delivered : List (Delivered Value) := consumption.calls.flatMap Handed.delivered

def upTo (sequence : Int) : List (Int × Value) :=
  (consumption.delivered.map Delivered.event).filter fun event => decide (event.1 ≤ sequence)

/-- The producer overwrites no event that the consumer has still to consume, which it never
does to a consumer that it knows. -/
def Protected : Prop :=
  ((deliveringApplication transport Value consumption.consumerCounters).machine
      consumption.passes).Meets (Spares transport consumption.consumerId)
    ((deliveringApplication transport Value consumption.consumerCounters).start consumption.slots
      consumption.producer consumption.attached consumption.joining)
      (consumption.earlier ++ consumption.moves) ∨
  (consumption.consumerId ∈ consumption.producer.consumerBarrier.consumerCursors ∧
    (transport.backend = .mmap → consumption.passes = .reliable))

/-! ### The contract of its run -/

abbrev policy : Policy (deliveringApplication transport Value consumption.consumerCounters) :=
  (Policy.unobserved (deliveringApplication transport Value consumption.consumerCounters)
    consumption.passes).accounting

theorem condition_always (party : Party) (self : Self) (action : Action (delivering Value))
    (world : World (delivering Value)) :
    consumption.policy.contract.condition party self action world := by
  cases party with
  | producer => cases self <;> trivial
  | consumer consumerId => trivial

theorem start_upheld : consumption.policy.contract.Upheld
    ((deliveringApplication transport Value consumption.consumerCounters).start consumption.slots
      consumption.producer consumption.attached consumption.joining) :=
  Policy.start_upheld (Policy.plain_servesProducer (fun _ _ _ => trivial)
      (fun _ _ => trivial))
    Policy.accounting_servesConsumer consumption.slots consumption.fresh
    (fun _ impossible => impossible.elim) consumption.known (fun _ _ => trivial)
    (fun _ _ _ => trivial)

theorem upheld_run {before after : (deliveringApplication transport Value
      consumption.consumerCounters).State} {moves : List (Move Party (Oracle (delivering Value)))}
    (upheld : consumption.policy.contract.Upheld before)
    (ran : ((deliveringApplication transport Value consumption.consumerCounters).machine
      consumption.passes).run before moves = some after) :
    consumption.policy.contract.Upheld after :=
  Contract.Upheld.run (fun _ _ _ _ holds restarted =>
    Policy.restart_safe Policy.accounting_servesConsumer holds restarted) upheld
    (Machine.meets_always consumption.condition_always _ _)
    (consumption.policy.accepts_always (fun _ _ _ _ => trivial) _ _) ran

theorem before_upheld : consumption.policy.contract.Upheld consumption.before :=
  consumption.upheld_run consumption.start_upheld consumption.reached

theorem after_upheld : consumption.policy.contract.Upheld consumption.after :=
  consumption.upheld_run consumption.before_upheld consumption.continued

end Consumption

theorem filter_sequences {Value : Type} {events : List (Int × Value)} {lower upper : Int}
    (bound : Int) (numbers : events.map Prod.fst = Consumer.sequences lower upper) :
    events.filter (fun event => decide (event.1 ≤ bound)) =
      events.take (bound + 1 - lower).toNat := by
  induction events generalizing lower with
  | nil => rw [List.filter_nil, List.take_nil]
  | cons head tail ih =>
      have nonempty : lower ≤ upper := by
        by_contra empty
        rw [Policy.sequences_nil (Int.not_le.mp empty)] at numbers
        cases numbers
      rw [Policy.sequences_cons nonempty, List.map_cons] at numbers
      obtain ⟨first, rest⟩ := List.cons.inj numbers
      by_cases within : lower ≤ bound
      · have more : (bound + 1 - lower).toNat = (bound + 1 - (lower + 1)).toNat + 1 := by omega
        have inside : decide (head.1 ≤ bound) = true := by
          rw [first]
          exact decide_eq_true within
        rw [List.filter_cons, if_pos inside, ih rest, more, List.take_succ_cons]
      · have none : (bound + 1 - lower).toNat = 0 := by omega
        have later : (bound + 1 - (lower + 1)).toNat = 0 := by omega
        have beyond : ¬ decide (head.1 ≤ bound) = true := by
          rw [first]
          exact fun inside => within (of_decide_eq_true inside)
        rw [List.filter_cons, if_neg beyond, ih rest, none, later, List.take_zero, List.take_zero]

namespace Consumption

variable {transport : Transport} {Value : Type} (consumption : Consumption transport Value)

/-! ### What was delivered -/

/-- Where a consumer is asked for the next call, everything it has read is committed and
handed over. -/
theorem rests {state : (deliveringApplication transport Value
      consumption.consumerCounters).State} {self : Consumer}
    (upheld : consumption.policy.contract.Upheld state)
    (asked : state.AboutTo (.consumer consumption.consumerId) (.consumer self)
      (.nextConsumerRequest consumption.consumerId)) :
    self.lastProcessedSequence = state.world.consumerSequence consumption.consumerId ∧
      (position (state.world.events consumption.consumerId)).next =
        state.world.consumerSequence consumption.consumerId + 1 ∧
      underway (state.world.events consumption.consumerId) = [] := by
  obtain ⟨_, ⟨consumer, same, here, idle⟩, ended⟩ := upheld.guaranteed asked trivial
  cases same
  have committed := (upheld.invariant.positions consumption.consumerId).1
  rw [← committed]
  exact ⟨here.lastProcessedSequence, idle, ended⟩

theorem delivered_reads : ∃ added,
    consumption.after.world.events consumption.consumerId =
      consumption.before.world.events consumption.consumerId ++ added ∧
    Event.crash ∉ added ∧
    consumption.delivered.map Delivered.event = reads added := by
  obtain ⟨added, further, later⟩ := run_adds consumption.continued consumption.consumerId
  have uninterrupted := later consumption.uninterrupted
  obtain ⟨_, _, began⟩ := consumption.rests consumption.before_upheld consumption.begins
  obtain ⟨_, _, ended⟩ := consumption.rests consumption.after_upheld consumption.ends
  have permitted := consumption.after_upheld.invariant.permitted consumption.consumerId
  rw [further] at permitted ended
  have handed := reads_handed (fun handed => handed.delivered.map Delivered.event)
    (consumption.before.world.events consumption.consumerId)
    (permitted.imp (fun earlier event fits output same => by
      subst same
      rcases fits with crash | accounts
      · cases crash
      · exact (accounts output rfl).reads)) uninterrupted
  have made := consumption.made
  rw [further, outputs_append] at made
  rw [began, ended, List.append_cancel_left made] at handed
  refine ⟨added, further, uninterrupted, ?_⟩
  rw [delivered, List.map_flatMap]
  exact (List.append_nil _).symm.trans handed.symm

/-- Whatever the values are, no sequence is left out and none is delivered twice. -/
theorem delivered_sequences : consumption.delivered.map Delivered.sequence =
    Consumer.sequences (consumption.start + 1) consumption.cursor := by
  obtain ⟨added, further, uninterrupted, events⟩ := consumption.delivered_reads
  obtain ⟨_, starts, _⟩ := consumption.rests consumption.before_upheld consumption.begins
  obtain ⟨_, stops, _⟩ := consumption.rests consumption.after_upheld consumption.ends
  have ordered := consumption.after_upheld.invariant.ordered consumption.consumerId
  rw [further] at ordered stops
  obtain ⟨_, numbers⟩ := reads_numbers _ ordered uninterrupted
  have sequences : consumption.delivered.map Delivered.sequence =
      (consumption.delivered.map Delivered.event).map Prod.fst := by
    rw [List.map_map]
    rfl
  have length : consumption.cursor + 1 - (consumption.start + 1) =
      consumption.cursor - (consumption.start + 1) + 1 := by omega
  rw [sequences, events, numbers, starts, stops]
  unfold Consumer.sequences
  rw [← length]
  rfl

theorem delivered_count :
    consumption.cursor = consumption.start + consumption.delivered.length := by
  obtain ⟨added, further, uninterrupted, events⟩ := consumption.delivered_reads
  obtain ⟨_, starts, _⟩ := consumption.rests consumption.before_upheld consumption.begins
  obtain ⟨_, stops, _⟩ := consumption.rests consumption.after_upheld consumption.ends
  have ordered := consumption.after_upheld.invariant.ordered consumption.consumerId
  rw [further] at ordered stops
  have ahead := (reads_numbers _ ordered uninterrupted).1
  have length := congrArg List.length consumption.delivered_sequences
  rw [Consumer.sequences, List.length_map, List.length_map, List.length_range] at length
  rw [starts, stops] at ahead
  change consumption.start + 1 ≤ consumption.cursor + 1 at ahead
  omega

theorem Protected.faithful {consumption : Consumption transport Value}
    (safe : consumption.Protected) : Faithful consumption.after.world.written
      (consumption.after.world.events consumption.consumerId) := by
  have ran := Machine.run_through consumption.reached consumption.continued
  rcases safe with spares | ⟨gating, reliable⟩
  · exact (Spared.run Policy.accounting_servesConsumer consumption.start_upheld
      (Machine.meets_always consumption.condition_always _ _)
      (consumption.policy.accepts_always (fun _ _ _ _ => trivial) _ _) spares ran
      (start_spared (deliveringApplication transport Value consumption.consumerCounters)
        consumption.slots consumption.producer consumption.attached consumption.joining
        consumption.consumerId)).faithful
  · let policy := (Policy.known
      (deliveringApplication transport Value consumption.consumerCounters) consumption.passes
      reliable consumption.producer.consumerBarrier.consumerCursors (fun _ _ => True)
      (fun _ _ _ => True)).accounting
    have upheld : policy.contract.Upheld consumption.after := by
      refine Policy.run_upheld (Policy.plain_servesProducer (fun _ _ _ => trivial)
          (fun _ _ => trivial))
        Policy.accounting_servesConsumer consumption.slots consumption.fresh
        (fun consumerId member => ⟨member, member⟩) consumption.known (fun _ _ => trivial)
        (fun _ _ absent known => absent (consumption.known known)) ?_
        (policy.accepts_always (fun _ _ _ _ => trivial) _ _) ran
      refine Machine.meets_always ?_ _ _
      intro party self action world
      cases party with
      | producer => cases self <;> trivial
      | consumer consumerId => trivial
    exact upheld.invariant.faithful consumption.consumerId gating

/-- What is delivered up to a sequence depends on nothing but what was published up to it,
and on where the consumer started. -/
theorem upTo_eq (safe : consumption.Protected) {sequence : Int}
    (within : sequence ≤ consumption.cursor) :
    consumption.upTo sequence =
      (numbered (consumption.after.world.published.take (sequence + 1).toNat)).drop
        (consumption.start + 1).toNat := by
  obtain ⟨added, further, uninterrupted, events⟩ := consumption.delivered_reads
  obtain ⟨_, starts, _⟩ := consumption.rests consumption.before_upheld consumption.begins
  obtain ⟨_, stops, _⟩ := consumption.rests consumption.after_upheld consumption.ends
  have holds := consumption.after_upheld.invariant
  have ordered := holds.ordered consumption.consumerId
  have behind := (holds.cursor_bounds consumption.consumerId).2
  have floor :=
    (consumption.before_upheld.invariant.cursor_bounds consumption.consumerId).1
  have faithful := safe.faithful
  rw [further] at ordered stops faithful
  obtain ⟨_, segment⟩ := reads_eq_segment _ ordered
    (fun event member => faithful event (List.mem_append_right _ member)) uninterrupted
  have numbers : (consumption.delivered.map Delivered.event).map Prod.fst =
      Consumer.sequences (consumption.start + 1) consumption.cursor := by
    rw [List.map_map]
    exact consumption.delivered_sequences
  have shown : (consumption.after.world.published).take (sequence + 1).toNat =
      consumption.after.world.written.take (sequence + 1).toNat := by
    have low : sequence ≤ consumption.after.world.producerSequence := Int.le_trans within behind
    rw [World.published, List.take_take, Nat.min_eq_left (by omega)]
  unfold upTo
  rw [filter_sequences sequence numbers, events, segment, starts, stops, shown, ← numbered_take,
    List.drop_take, List.drop_take, List.take_take]
  congr 1
  change min (sequence + 1 - (consumption.start + 1)).toNat
    ((consumption.cursor + 1).toNat - (consumption.start + 1).toNat) =
      (sequence + 1).toNat - (consumption.start + 1).toNat
  have low : -1 ≤ consumption.start := floor
  omega

/-! ### What the calls account for -/

theorem accounted {handed : Handed Value} (made : handed ∈ consumption.calls) :
    ∃ log, log ++ [.handOver handed] <+:
        consumption.after.world.events consumption.consumerId ∧
      Handed.Accounts log handed := by
  have member : handed ∈
      outputs (consumption.after.world.events consumption.consumerId) := by
    rw [consumption.made]
    exact List.mem_append_right _ made
  obtain ⟨event, recorded, output⟩ := List.mem_filterMap.mp member
  have same : event = .handOver handed := by
    cases event with
    | handOver other =>
        cases output
        rfl
    | _ => cases output
  subst same
  obtain ⟨log, rest, split⟩ := List.append_of_mem recorded
  have permitted := consumption.after_upheld.invariant.permitted consumption.consumerId
  refine ⟨log, ⟨rest, by rw [split, List.append_assoc, List.singleton_append]⟩, ?_⟩
  rcases permitted log _ rest split with crash | accounts
  · cases crash
  · exact accounts handed rfl

theorem counted {handed : Handed Value} (made : handed ∈ consumption.calls) {count : Nat}
    (counts : handed.count = some count) : handed.delivered.length = count := by
  obtain ⟨log, _, accounts⟩ := consumption.accounted made
  have answers := accounts.answers
  obtain ⟨request, delivered, answer⟩ := handed
  cases answer with
  | processed total =>
      cases counts
      exact answers
  | _ => cases counts

end Consumption

theorem sum_of_counts {Value : Type} {calls : List (Handed Value)}
    (counted : ∀ handed ∈ calls, ∀ count, handed.count = some count →
      handed.delivered.length = count) :
    (calls.filterMap Handed.count).sum =
      ((calls.filter fun handed => handed.count.isSome).flatMap Handed.delivered).length := by
  induction calls with
  | nil => rfl
  | cons handed rest ih =>
      have later := ih fun other member => counted other (List.mem_cons_of_mem _ member)
      cases found : handed.count with
      | none =>
          rw [List.filterMap_cons_none found, later, List.filter_cons, found]
          rfl
      | some count =>
          have size := counted handed List.mem_cons_self count found
          rw [List.filterMap_cons_some found, List.sum_cons, later, List.filter_cons, found]
          simp [size]

namespace Consumption

variable {transport : Transport} {Value : Type}

end Consumption

/-! ### Two events, taken at once and one by one -/

section Example

abbrev readingMachine :=
  (deliveringApplication twoSlots Nat noCounters).machine .mayFail

def bothPublished : List (Move Party (Oracle (delivering Nat))) :=
  [.silent, .producerRequest (.publish fun _ => some 7), .silent, .silent, .silent, .silent,
    .silent, .producerRequest (.publish fun _ => some 8), .silent, .silent, .silent,
    .silent].map (Move.step .producer) ++ [.step (.consumer "reader") .silent]

def takenAtOnce : List (Move Party (Oracle (delivering Nat))) :=
  [.consumerRequest .processAvailableBlocking, .silent, .silent, .silent, .silent, .again false,
    .silent, .silent, .again false, .silent, .silent, .silent, .silent, .silent].map
      (Move.step (.consumer "reader"))

def takenOneByOne : List (Move Party (Oracle (delivering Nat))) :=
  [.consumerRequest .tryConsumeNext, .silent, .silent, .silent, .silent, .silent,
    .consumerRequest .tryConsumeNextLeased, .silent, .silent, .silent, .again false, .silent,
    .silent, .silent].map (Move.step (.consumer "reader"))

def readerAsked (state : (deliveringApplication twoSlots Nat noCounters).State) :
    Option Consumer :=
  match state.program (.consumer "reader") with
  | .act (.consumer consumer) (.nextConsumerRequest reader) _ =>
      if reader = "reader" then some consumer else none
  | _ => none

theorem readerAsked_aboutTo {state : (deliveringApplication twoSlots Nat noCounters).State}
    {consumer : Consumer} (found : readerAsked state = some consumer) :
    state.AboutTo (.consumer "reader") (.consumer consumer) (.nextConsumerRequest "reader") := by
  unfold readerAsked at found
  split at found
  · rename_i asked reader next placed
    split at found
    · rename_i same
      cases found
      subst same
      exact ⟨next, placed⟩
    · cases found
  · cases found

def takesBoth (moves : List (Move Party (Oracle (delivering Nat)))) :
    Option (List ConsumerRequest) :=
  (readingMachine.run
    ((deliveringApplication twoSlots Nat noCounters).start (fun _ => (0 : Nat))
      (knowing twoSlots ["reader"]) ["reader"] []) bothPublished).bind fun before =>
  (readingMachine.run before moves).bind fun after =>
  (readerAsked before).bind fun _ =>
  (readerAsked after).bind fun _ =>
  if (before.world.events "reader").isEmpty ∧ before.world.consumerSequence "reader" = -1 ∧
      after.world.consumerSequence "reader" = 1 ∧ after.world.published = [7, 8] then
    some ((outputs (after.world.events "reader")).map Handed.request)
  else none

theorem consumption_of_takes {moves : List (Move Party (Oracle (delivering Nat)))}
    {requests : List ConsumerRequest} (uninterrupted : Move.crash (.consumer "reader") ∉ moves)
    (takes : takesBoth moves = some requests) :
    ∃ consumption : Consumption twoSlots Nat,
      consumption.calls.map Handed.request = requests ∧ consumption.start = -1 ∧
      consumption.cursor = 1 ∧ consumption.after.world.published = [7, 8] ∧
      consumption.Protected := by
  unfold takesBoth at takes
  obtain ⟨before, reached, takes⟩ := Option.bind_eq_some_iff.mp takes
  obtain ⟨after, continued, takes⟩ := Option.bind_eq_some_iff.mp takes
  obtain ⟨first, begins, takes⟩ := Option.bind_eq_some_iff.mp takes
  obtain ⟨last, ends, takes⟩ := Option.bind_eq_some_iff.mp takes
  split at takes
  · rename_i facts
    obtain ⟨empty, starts, stops, published⟩ := facts
    cases takes
    refine ⟨{ passes := .mayFail, consumerCounters := noCounters, slots := fun _ => 0
              producer := knowing twoSlots ["reader"], attached := ["reader"], joining := []
              consumerId := "reader", earlier := bothPublished, moves, before, after, first, last
              calls := outputs (after.world.events "reader")
              fresh := ⟨rfl, rfl⟩, known := List.Subset.refl _, reached, continued
              uninterrupted, begins := readerAsked_aboutTo begins
              ends := readerAsked_aboutTo ends, made := ?_ },
      rfl, starts, stops, published, ?_⟩
    · rw [List.isEmpty_iff.mp empty]
      rfl
    · exact .inr ⟨List.mem_singleton_self _, fun mmap => absurd mmap (by decide)⟩
  · cases takes

end Example

end Ring
