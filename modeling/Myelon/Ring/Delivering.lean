/-
What a consumer is given, whichever calls it makes.

The application gathers every event that a call hands to it, in the order in which it gets
them, and hands over what was gathered together with what the call returned.
-/

import Myelon.Delivery.Calls
import Myelon.Ring.Known

namespace Ring

open Interleaving Delivery

/-- An event as the code of an application gets it. -/
structure Delivered (Value : Type) where
  sequence : Int
  value : Value
  /-- Whether it is the last of its batch, where the call tells this. -/
  endOfBatch : Option Bool

namespace Delivered

variable {Value : Type}

def event (delivered : Delivered Value) : Int × Value := (delivered.sequence, delivered.value)

def marked (delivered : Delivered Value) : Int × Option Bool :=
  (delivered.sequence, delivered.endOfBatch)

end Delivered

structure Handed (Value : Type) where
  request : ConsumerRequest
  delivered : List (Delivered Value)
  answer : ConsumerOutput Value

/-! ### The application -/

abbrev delivering (Value : Type) : Interface := handing Value (Handed Value)

abbrev GatheringProcess (Value α : Type) :=
  ConsumerProcess (delivering Value) (List (Delivered Value)) α

variable {Value : Type}

def gather (delivered : Delivered Value) : GatheringProcess Value Unit :=
  modify fun self => (self.1, self.2 ++ [delivered])

def gatherCopy : Option (Int × Value) → GatheringProcess Value Unit
  | none => pure ()
  | some (sequence, value) => gather { sequence, value, endOfBatch := none }

def gatherHeld (endOfBatch : Option Bool) (event : EventRef (delivering Value)) :
    GatheringProcess Value Unit := do
  gather { sequence := event.sequence, value := event.value, endOfBatch }
  Consumer.hold event

def gatherConsumer (transport : Transport) :
    ConsumerRequest → GatheringProcess Value (ConsumerOutput Value)
  | .tryConsumeNext => do
      let event ← Consumer.tryConsumeNext transport
      gatherCopy event
      pure (.consumed event)
  | .tryConsumeNextLeased =>
      .released <$> Consumer.tryConsumeNextLeased transport fun event => do
        gatherHeld none event
        pure event.sequence
  | .consumeNext => do
      let event ← Consumer.consumeNext transport
      gatherCopy (some event)
      pure (.consumed (some event))
  | .consumeNextLeased =>
      (.released ∘ some) <$> Consumer.consumeNextLeased transport fun event => do
        gatherHeld none event
        pure event.sequence
  | .processNextBlocking =>
      match transport.backend with
      | .sharedMemory => (fun result => .processedNext result.1 result.2) <$>
          Consumer.processNextBlocking transport (fun value sequence endOfBatch =>
            gather { sequence, value, endOfBatch := some endOfBatch })
      | .mmap => pure .unavailable
  | .processAvailable =>
      .processed <$> Consumer.processAvailable transport (gatherHeld none)
  | .processAvailableBlocking =>
      match transport.backend with
      | .sharedMemory => .processed <$>
          Consumer.processAvailableBlocking transport (fun event endOfBatch =>
            gatherHeld (some endOfBatch) event)
      | .mmap => pure .unavailable

def serveGathering (transport : Transport) (request : ConsumerRequest) :
    GatheringProcess Value (Handed Value) := do
  modify fun self => (self.1, [])
  let answer ← gatherConsumer transport request
  let self ← get
  pure { request, delivered := self.2, answer }

abbrev deliveringApplication (transport : Transport) (Value : Type)
    (consumerCounters : ConsumerCounters) : Application transport :=
  passingOn transport ([] : List (Delivered Value)) (serveGathering transport)
    consumerCounters

/-! ### What a call accounts for -/

/-- A snapshot of the ring, event by event, with the mark of each. -/
def snapshot (mark : Bool → Option Bool) (bounds : Int × Int) : List (Int × Option Bool) :=
  (Consumer.sequences bounds.1 bounds.2).map fun sequence =>
    (sequence, mark (decide (sequence = bounds.2)))

/-- Snapshots one after the other, and each of them committed at its end. -/
structure Snapshots (log : List (ConsumerEvent (delivering Value)))
    (snapshots : List (Int × Int)) : Prop where
  nonempty : ∀ bounds ∈ snapshots, bounds.1 ≤ bounds.2
  committed : commits (underway log) = snapshots.map Prod.snd

namespace Handed

/-- What a call returns agrees with what it has delivered. -/
def Answers (handed : Handed Value) : Prop :=
  match handed.answer with
  | .consumed event => handed.delivered.map Delivered.event = event.toList
  | .released sequence => handed.delivered.map Delivered.sequence = sequence.toList
  | .processedNext sequence endOfBatch =>
      handed.delivered.map Delivered.marked = [(sequence, some endOfBatch)]
  | .processed count => handed.delivered.length = count
  | .unavailable => handed.delivered = []

/-- What a call has delivered is what it has read. -/
structure Accounts (log : List (ConsumerEvent (delivering Value))) (handed : Handed Value) :
    Prop where
  reads : handed.delivered.map Delivered.event = reads (underway log)
  answers : handed.Answers
  snapshots : handed.request = .processAvailableBlocking →
    ∃ snapshots, Snapshots log snapshots ∧
      handed.delivered.map Delivered.marked = snapshots.flatMap (snapshot some)

end Handed

def Policy.accounting {transport : Transport} {consumerCounters : ConsumerCounters}
    (policy : Policy (deliveringApplication transport Value consumerCounters)) :
    Policy (deliveringApplication transport Value consumerCounters) :=
  { policy with
    permits := fun log event => ∀ handed, event = .handOver handed → Handed.Accounts log handed
    returned := fun log => underway log = [] }

/-! ### What is gathered -/

variable {transport : Transport}

section Held

variable {application : Application transport} {policy : Policy application} {App : Type}
variable {consumerId : ConsumerId} {log : List (ConsumerEvent application.interface)}
variable {app : App} {visible : Int}

theorem Policy.holdRead_triple
    (rereads : ∀ log sequence value, policy.permits log (.reread sequence value))
    (event : EventRef application.interface)
    (placed : event.slot = transport.ring.index event.sequence)
    (ahead : (position log).committed < event.sequence) :
    policy.ConsumerTriple consumerId
      (policy.Standing consumerId (log ++ [.read event.sequence event.value]) app visible)
      (Consumer.hold event)
      (fun _ self world => ∃ used,
        (reads (underway used) = reads (underway log) ++ [(event.sequence, event.value)] ∧
          commits (underway used) = commits (underway log) ∧
          position used = ⟨(position log).committed, event.sequence + 1⟩) ∧
        policy.Standing consumerId used app visible self world) := by
  have moved : position (log ++ [.read event.sequence event.value]) =
      ⟨(position log).committed, event.sequence + 1⟩ := position_snoc _ _
  refine (hold_triple (fun used =>
    reads (underway used) = reads (underway log) ++ [(event.sequence, event.value)] ∧
      commits (underway used) = commits (underway log)) event placed ?_ ?_ ?_ ?_).weaken ?_
  · rw [moved]
    exact ahead
  · rw [moved]
    exact Int.lt_succ _
  · intro used value ⟨read, committed⟩
    refine ⟨rereads used _ value, ?_, ?_⟩
    · rw [underway_reread, reads_append, read]
      exact List.append_nil _
    · rw [underway_reread, commits_append, committed]
      exact List.append_nil _
  · constructor
    · rw [underway_read, reads_append]
      rfl
    · rw [underway_read, commits_append]
      exact List.append_nil _
  · intro _ self world ⟨used, ⟨⟨read, committed⟩, same⟩, standing⟩
    exact ⟨used, ⟨read, committed, same.trans moved⟩, standing⟩

end Held

variable {consumerCounters : ConsumerCounters}
variable {policy : Policy (deliveringApplication transport Value consumerCounters)}
variable {consumerId : ConsumerId} {log : List (ConsumerEvent (delivering Value))}
variable {app : List (Delivered Value)} {visible : Int}

namespace Policy

theorem gather_triple (delivered : Delivered Value) :
    policy.ConsumerTriple consumerId (policy.Standing consumerId log app visible)
      (gather delivered)
      (fun _ => policy.Standing consumerId log (app ++ [delivered]) visible) := by
  apply Contract.Triple.update
  intro self world standing
  constructor
  · exact standing.here
  · change self.2 ++ [delivered] = app ++ [delivered]
    rw [standing.app]
  · exact standing.visible

theorem gatherHeld_triple
    (rereads : ∀ log sequence value, policy.permits log (.reread sequence value))
    (endOfBatch : Option Bool) (event : EventRef (delivering Value))
    (placed : event.slot = transport.ring.index event.sequence)
    (ahead : (position log).committed < event.sequence) :
    policy.ConsumerTriple consumerId
      (policy.Standing consumerId (log ++ [.read event.sequence event.value]) app visible)
      (gatherHeld endOfBatch event)
      (fun _ self world => ∃ used,
        (reads (underway used) = reads (underway log) ++ [(event.sequence, event.value)] ∧
          commits (underway used) = commits (underway log) ∧
          position used = ⟨(position log).committed, event.sequence + 1⟩) ∧
        policy.Standing consumerId used
          (app ++ [⟨event.sequence, event.value, endOfBatch⟩]) visible self world) := by
  apply Contract.Triple.bind (gather_triple _)
  intro _
  exact holdRead_triple rereads event placed ahead

end Policy

/-! ### Batches -/

theorem sequences_snoc {lower upper : Int} (within : lower ≤ upper) :
    Consumer.sequences lower upper = Consumer.sequences lower (upper - 1) ++ [upper] := by
  have count : (upper - lower + 1).toNat = (upper - 1 - lower + 1).toNat + 1 := by omega
  have last : lower + ((upper - 1 - lower + 1).toNat : Int) = upper := by omega
  unfold Consumer.sequences
  rw [count, List.range_succ, List.map_append, List.map_singleton, last]

structure Gathered (mark : Bool → Option Bool) (count : Nat)
    (log : List (ConsumerEvent (delivering Value))) (app : List (Delivered Value)) : Prop where
  reads : app.map Delivered.event = reads (underway log)
  count : app.length = count
  snapshots : ∃ snapshots, Snapshots log snapshots ∧
    app.map Delivered.marked = snapshots.flatMap (snapshot mark)

structure Gathering (mark : Bool → Option Bool) (count : Nat) (upper : Int)
    (log : List (ConsumerEvent (delivering Value))) (app : List (Delivered Value)) : Prop where
  reads : app.map Delivered.event = reads (underway log)
  count : app.length = count
  snapshots : ∃ snapshots, Snapshots log snapshots ∧
    app.map Delivered.marked = snapshots.flatMap (snapshot mark) ++
      (Consumer.sequences ((position log).committed + 1) ((position log).next - 1)).map
        fun sequence => (sequence, mark (decide (sequence = upper)))

variable {mark : Bool → Option Bool} {count : Nat} {upper : Int}

theorem Gathered.opens (gathered : Gathered mark count log app) (idle : (position log).Idle) :
    Gathering mark count upper log app := by
  obtain ⟨snapshots, whole, marked⟩ := gathered.snapshots
  refine ⟨gathered.reads, gathered.count, snapshots, whole, ?_⟩
  have empty : Consumer.sequences ((position log).committed + 1) ((position log).next - 1) = [] :=
    Policy.sequences_nil (by
      have next : (position log).next = (position log).committed + 1 := idle
      omega)
  rw [marked, empty]
  exact (List.append_nil _).symm

theorem Gathering.processed {used : List (ConsumerEvent (delivering Value))}
    {event : EventRef (delivering Value)} (gathering : Gathering mark count upper log app)
    (next : (position log).next = event.sequence)
    (ahead : (position log).committed < event.sequence)
    (read : Delivery.reads (underway used) =
      Delivery.reads (underway log) ++ [(event.sequence, event.value)])
    (committed : commits (underway used) = commits (underway log))
    (moved : position used = ⟨(position log).committed, event.sequence + 1⟩) :
    Gathering mark (count + 1) upper used
      (app ++ [⟨event.sequence, event.value, mark (decide (event.sequence = upper))⟩]) := by
  obtain ⟨snapshots, whole, marked⟩ := gathering.snapshots
  constructor
  · rw [List.map_append, gathering.reads, read]
    rfl
  · rw [List.length_append, gathering.count]
    rfl
  · refine ⟨snapshots, ⟨whole.nonempty, committed.trans whole.committed⟩, ?_⟩
    have further : Consumer.sequences ((position log).committed + 1) event.sequence =
        Consumer.sequences ((position log).committed + 1) (event.sequence - 1) ++
          [event.sequence] := sequences_snoc ahead
    rw [moved, List.map_append, marked, next, Int.add_sub_cancel, further, List.map_append,
      List.append_assoc]
    rfl

theorem Gathering.commits (gathering : Gathering mark count upper log app)
    (ahead : (position log).committed < upper) (last : (position log).next = upper + 1) :
    Gathered mark count (log ++ [.commit upper]) app := by
  obtain ⟨snapshots, whole, marked⟩ := gathering.snapshots
  constructor
  · rw [underway_commit, reads_append, gathering.reads]
    exact (List.append_nil _).symm
  · exact gathering.count
  · refine ⟨snapshots ++ [((position log).committed + 1, upper)], ⟨?_, ?_⟩, ?_⟩
    · intro bounds member
      rcases List.mem_append.mp member with earlier | here
      · exact whole.nonempty bounds earlier
      · rw [List.mem_singleton.mp here]
        exact ahead
    · rw [underway_commit, commits_append, whole.committed, List.map_append]
      rfl
    · rw [marked, List.flatMap_append, List.flatMap_singleton, last, Int.add_sub_cancel]
      rfl

namespace Policy

/-- Every event of a batch is gathered, and marked where it is the last. -/
theorem gathers_batches (mark : Bool → Option Bool)
    (permits : ∀ log event, (∀ handed, event ≠ .handOver handed) → policy.permits log event) :
    policy.Batches consumerId (Gathered mark) (Gathering mark)
      (fun event endOfBatch => gatherHeld (mark endOfBatch) event) where
  opens := fun _ _ _ _ gathered idle => gathered.opens idle
  reads := fun _ _ log _ sequence value _ => permits log _ (fun _ same => nomatch same)
  processed := by
    intro count upper log app visible event gathering ahead next _ placed
    refine (gatherHeld_triple (fun log _ _ => permits log _ (fun _ same => nomatch same)) _
      event placed ahead).weaken ?_
    intro _ self world ⟨used, ⟨read, committed, moved⟩, standing⟩
    exact ⟨used, _, gathering.processed next ahead read committed moved, moved, standing⟩
  commits := fun _ log _ _ gathering ahead last =>
    ⟨permits log _ (fun _ same => nomatch same), gathering.commits ahead last⟩

/-! ### Every call -/

def Handing (request : ConsumerRequest) (answer : ConsumerOutput Value)
    (log : List (ConsumerEvent (delivering Value))) (app : List (Delivered Value)) : Prop :=
  Handed.Accounts log { request, delivered := app, answer }

def Beginning (log : List (ConsumerEvent (delivering Value))) (app : List (Delivered Value)) :
    Prop :=
  underway log = [] ∧ app = []

theorem Beginning.gathered (beginning : Beginning log app) (mark : Bool → Option Bool) :
    Gathered mark 0 log app := by
  obtain ⟨none, rfl⟩ := beginning
  refine ⟨?_, rfl, [], ⟨?_, ?_⟩, rfl⟩
  · rw [none]
    rfl
  · intro bounds member
    cases member
  · rw [none]
    rfl

theorem Beginning.hands {request : ConsumerRequest} {answer : ConsumerOutput Value}
    (beginning : Beginning log app)
    (answers : Handed.Answers { request, delivered := ([] : List (Delivered Value)), answer }) :
    Handing request answer log app := by
  have gathered := beginning.gathered some
  obtain ⟨none, rfl⟩ := beginning
  exact ⟨gathered.reads, answers, fun _ => gathered.snapshots⟩

theorem hands_consumed {request : ConsumerRequest} {answer : ConsumerOutput Value}
    {self : Consumer × List (Delivered Value)} {world : World (delivering Value)}
    (begun : underway log = []) (sequence : Int) (value : Value) (endOfBatch : Option Bool)
    (standing : policy.Standing consumerId (log ++ [.read sequence value] ++ [.commit sequence])
      [⟨sequence, value, endOfBatch⟩] visible self world)
    (other : request ≠ .processAvailableBlocking)
    (answers : Handed.Answers
      { request, delivered := [⟨sequence, value, endOfBatch⟩], answer }) :
    policy.Rested consumerId (Handing request answer) self world := by
  refine ⟨_, _, visible, ⟨?_, answers, fun same => absurd same other⟩,
    idle_consumed log sequence value, standing⟩
  rw [underway_commit, underway_read, begun]
  rfl

theorem hands_given (request : ConsumerRequest) (answer : Int → ConsumerOutput Value)
    {sequence result : Int} {self : Consumer × List (Delivered Value)}
    {world : World (delivering Value)}
    (given : policy.GivenBack consumerId sequence (fun result used app =>
      ∃ delivered : Delivered Value, delivered.sequence = result ∧ app = [delivered] ∧
        reads (underway used) = [delivered.event]) result self world)
    (other : request ≠ .processAvailableBlocking)
    (answers : ∀ delivered : Delivered Value,
      Handed.Answers { request, delivered := [delivered], answer := answer delivered.sequence }) :
    policy.Rested consumerId (Handing request (answer result)) self world := by
  obtain ⟨used, app, standing, read, delivered, rfl, rfl, gathered⟩ := given
  refine ⟨_, _, sequence, ⟨?_, answers delivered, fun same => absurd same other⟩,
    idle_committed used sequence read, standing⟩
  rw [underway_commit, reads_append, gathered]
  rfl

section Calls

variable (permits : ∀ log event, (∀ handed, event ≠ .handOver handed) →
  policy.permits log event)

include permits

theorem gatherLease_triple {sequence : Int} {event : EventRef (delivering Value)}
    (begun : underway log = []) (next : sequence = (position log).committed + 1)
    (same : event.sequence = sequence) (placed : event.slot = transport.ring.index sequence) :
    policy.ConsumerTriple consumerId
      (policy.Standing consumerId (log ++ [.read sequence event.value]) [] sequence)
      (gatherHeld none event >>= fun _ => pure event.sequence)
      (policy.Used consumerId log sequence (fun result used app =>
        ∃ delivered : Delivered Value, delivered.sequence = result ∧ app = [delivered] ∧
          reads (underway used) = [delivered.event])) := by
  subst same
  refine Contract.Triple.bind (gatherHeld_triple
    (fun log _ _ => permits log _ (fun _ same => nomatch same)) none event placed
    (by omega)) (fun _ => ?_)
  apply Contract.Triple.pure
  intro self world ⟨used, ⟨read, _committed, moved⟩, standing⟩
  rw [begun] at read
  exact ⟨used, _, standing, moved, permits used _ (fun _ same => nomatch same), _, rfl, rfl, read⟩

theorem gatherConsumer_triple (request : ConsumerRequest) :
    policy.ConsumerTriple consumerId (policy.Rested consumerId Beginning)
      (gatherConsumer transport request)
      (fun answer => policy.Rested consumerId (Handing request answer)) := by
  have reads : ∀ log sequence value, policy.permits log (.read sequence value) :=
    fun log _ _ => permits log _ (fun _ same => nomatch same)
  have commits : ∀ log sequence, policy.permits log (.commit sequence) :=
    fun log _ => permits log _ (fun _ same => nomatch same)
  have unavailable : ∀ request, policy.ConsumerTriple consumerId
      (policy.Rested consumerId Beginning)
      (pure .unavailable : GatheringProcess Value (ConsumerOutput Value))
      (fun answer => policy.Rested consumerId (Handing request answer)) := by
    intro request
    apply Contract.Triple.pure
    intro self world ⟨log, app, visible, beginning, idle, standing⟩
    exact ⟨log, app, visible, beginning.hands rfl, idle, standing⟩
  have processed : ∀ {request mark routine},
      policy.ConsumerTriple consumerId (policy.Rested consumerId (Gathered mark 0)) routine
        (fun total => policy.Rested consumerId (Gathered mark total)) →
      (request = .processAvailableBlocking → mark = some) →
      policy.ConsumerTriple consumerId (policy.Rested consumerId Beginning)
        (ConsumerOutput.processed <$> routine)
        (fun answer => policy.Rested consumerId (Handing request answer)) := by
    intro request mark routine triple marks
    apply Contract.Triple.map
    apply triple.conseq
    · intro self world ⟨log, app, visible, beginning, idle, standing⟩
      exact ⟨log, app, visible, beginning.gathered mark, idle, standing⟩
    · intro total self world ⟨log, app, visible, gathered, idle, standing⟩
      refine ⟨log, app, visible, ⟨gathered.reads, gathered.count, ?_⟩, idle, standing⟩
      intro same
      rw [marks same] at gathered
      exact gathered.snapshots
  cases request with
  | tryConsumeNext =>
      apply rested_triple
      intro log app visible ⟨begun, empty⟩ idle
      subst empty
      refine Contract.Triple.bind (tryConsumeNext_triple idle (reads log)
        (fun _ _ => commits _ _)) (fun consumed => ?_)
      match consumed with
      | none =>
          apply Contract.Triple.pure
          intro self world held
          exact ⟨log, [], visible, Beginning.hands ⟨begun, rfl⟩ rfl, idle, held.1⟩
      | some (sequence, value) =>
          refine Contract.Triple.bind ((gather_triple _).strengthen (fun _ _ held => held.2))
            (fun _ => ?_)
          apply Contract.Triple.pure
          intro self world standing
          exact hands_consumed begun sequence value none standing (by decide) rfl
  | tryConsumeNextLeased =>
      apply Contract.Triple.map
      apply rested_triple
      intro log app visible ⟨begun, empty⟩ idle
      subst empty
      refine (tryConsumeNextLeased_triple idle (reads log)
        (fun sequence event => gatherLease_triple permits begun)).weaken ?_
      intro leased self world held
      match leased with
      | none => exact ⟨log, [], visible, Beginning.hands ⟨begun, rfl⟩ rfl, idle, held.1⟩
      | some result =>
          exact hands_given .tryConsumeNextLeased (fun sequence => .released (some sequence)) held
            (by decide) (fun _ => rfl)
  | consumeNext =>
      apply rested_triple
      intro log app visible ⟨begun, empty⟩ idle
      subst empty
      refine Contract.Triple.bind (consumeNext_triple idle (reads log)
        (fun _ _ => commits _ _)) (fun event => ?_)
      refine Contract.Triple.bind ((gather_triple _).strengthen (fun _ _ held => held.2))
        (fun _ => ?_)
      apply Contract.Triple.pure
      intro self world standing
      exact hands_consumed begun event.1 event.2 none standing (by decide) rfl
  | consumeNextLeased =>
      apply Contract.Triple.map
      apply rested_triple
      intro log app visible ⟨begun, empty⟩ idle
      subst empty
      refine (consumeNextLeased_triple idle (reads log)
        (fun sequence event => gatherLease_triple permits begun)).weaken ?_
      intro result self world held
      exact hands_given .consumeNextLeased (fun sequence => .released (some sequence)) held
        (by decide) (fun _ => rfl)
  | processNextBlocking =>
      simp only [gatherConsumer]
      split
      · apply Contract.Triple.map
        apply rested_triple
        intro log app visible ⟨begun, empty⟩ idle
        subst empty
        refine (processNextBlocking_triple idle (reads log) (fun _ _ => commits _ _)
          (fun sequence value endOfBatch _ => gather_triple _)).weaken ?_
        intro result self world ⟨value, _next, standing⟩
        exact hands_consumed begun result.1 value (some result.2) standing (by decide) rfl
      · exact unavailable _
  | processAvailable =>
      exact processed (countedAvailable_triple (gathers_batches (fun _ => none) permits))
        (fun same => nomatch same)
  | processAvailableBlocking =>
      simp only [gatherConsumer]
      split
      · exact processed (countedBlocking_triple (gathers_batches some permits)) (fun _ => rfl)
      · exact unavailable _

end Calls

theorem accounting_servesConsumer :
    policy.accounting.ServesConsumer (fun log _ => underway log = []) := by
  constructor
  · intro log fresh _permitted
    rcases fresh with rfl | ⟨before, rfl⟩
    · exact underway_nil
    · exact underway_crash before
  · intro log _ ended
    exact ended
  · intro consumerId request
    have quiet : ∀ log event, (∀ handed, event ≠ .handOver handed) →
        policy.accounting.permits log event :=
      fun log event other handed same => absurd same (other handed)
    refine Contract.Triple.through (fun _ => policy.accounting.Rested consumerId Beginning) ?_
      (fun _ => ?_)
    · apply Contract.Triple.update
      intro self world ⟨log, app, visible, ended, idle, standing⟩
      exact ⟨log, [], visible, ⟨ended, rfl⟩, idle, { standing with app := rfl }⟩
    refine Contract.Triple.bind (gatherConsumer_triple quiet request) (fun answer => ?_)
    refine Contract.Triple.bind Contract.Triple.get (fun self => ?_)
    apply Contract.Triple.pure
    intro now world ⟨same, log, app, visible, accounts, idle, standing⟩
    subst same
    refine ⟨log, app, visible, ⟨?_, underway_handOver log _⟩, idle, standing⟩
    intro handed same
    cases same
    rw [standing.app]
    exact accounts

end Policy
end Ring
