/-
The calls a reader is made of, as its log shows them.

A call ends where it hands something over, or where the reader crashes. What lies behind the
last end is what the call that is under way has done so far.
-/

import Myelon.Delivery.Log

namespace Delivery

variable {Value Output : Type}

def underway (log : List (Event Value Output)) : List (Event Value Output) :=
  log.foldl (fun call event => match event with
    | .handOver _ => []
    | .crash => []
    | event => call ++ [event]) []

@[simp] theorem underway_nil : underway ([] : List (Event Value Output)) = [] := rfl

section Snoc

variable (log : List (Event Value Output))

@[simp] theorem underway_read (sequence : Int) (value : Value) :
    underway (log ++ [.read sequence value]) = underway log ++ [.read sequence value] := by
  simp only [underway, List.foldl_append, List.foldl_cons, List.foldl_nil]

@[simp] theorem underway_reread (sequence : Int) (value : Value) :
    underway (log ++ [.reread sequence value]) = underway log ++ [.reread sequence value] := by
  simp only [underway, List.foldl_append, List.foldl_cons, List.foldl_nil]

@[simp] theorem underway_commit (sequence : Int) :
    underway (log ++ [.commit sequence]) = underway log ++ [.commit sequence] := by
  simp only [underway, List.foldl_append, List.foldl_cons, List.foldl_nil]

@[simp] theorem underway_handOver (output : Output) :
    underway (log ++ [.handOver output]) = [] := by
  simp only [underway, List.foldl_append, List.foldl_cons, List.foldl_nil]

@[simp] theorem underway_crash : underway (log ++ [.crash]) = [] := by
  simp only [underway, List.foldl_append, List.foldl_cons, List.foldl_nil]

end Snoc

/-! ### Incarnations -/

def incarnation (log : List (Event Value Output)) : List (Event Value Output) :=
  log.foldl (fun life event => match event with
    | .crash => []
    | event => life ++ [event]) []

section Snoc

variable (log : List (Event Value Output))

@[simp] theorem incarnation_crash : incarnation (log ++ [.crash]) = [] := by
  simp only [incarnation, List.foldl_append, List.foldl_cons, List.foldl_nil]

theorem incarnation_snoc {event : Event Value Output} (alive : event ≠ .crash) :
    incarnation (log ++ [event]) = incarnation log ++ [event] := by
  cases event with
  | crash => exact absurd rfl alive
  | read sequence value =>
      simp only [incarnation, List.foldl_append, List.foldl_cons, List.foldl_nil]
  | reread sequence value =>
      simp only [incarnation, List.foldl_append, List.foldl_cons, List.foldl_nil]
  | commit sequence =>
      simp only [incarnation, List.foldl_append, List.foldl_cons, List.foldl_nil]
  | handOver output =>
      simp only [incarnation, List.foldl_append, List.foldl_cons, List.foldl_nil]

end Snoc

theorem incarnation_append (before : List (Event Value Output))
    {rest : List (Event Value Output)} (uninterrupted : Event.crash ∉ rest) :
    incarnation (before ++ rest) = incarnation before ++ rest := by
  induction rest using List.reverseRecOn with
  | nil => rw [List.append_nil, List.append_nil]
  | append_singleton rest event ih =>
      rw [List.mem_append, List.mem_singleton, not_or] at uninterrupted
      rw [← List.append_assoc, incarnation_snoc _ (Ne.symm uninterrupted.2),
        ih uninterrupted.1, List.append_assoc]

theorem incarnation_split (log : List (Event Value Output)) :
    Event.crash ∉ incarnation log ∧ ∃ before, log = before ++ incarnation log ∧
      (before = [] ∨ ∃ earlier, before = earlier ++ [.crash]) := by
  induction log using List.reverseRecOn with
  | nil => exact ⟨List.not_mem_nil, [], rfl, .inl rfl⟩
  | append_singleton log event ih =>
      obtain ⟨uninterrupted, before, split, begins⟩ := ih
      by_cases crash : event = .crash
      · subst crash
        rw [incarnation_crash]
        exact ⟨List.not_mem_nil, log ++ [.crash], (List.append_nil _).symm, .inr ⟨log, rfl⟩⟩
      · rw [incarnation_snoc log crash]
        constructor
        · rw [List.mem_append, List.mem_singleton, not_or]
          exact ⟨uninterrupted, Ne.symm crash⟩
        · refine ⟨before, ?_, begins⟩
          rw [← List.append_assoc, ← split]

theorem incarnation_uninterrupted {log : List (Event Value Output)}
    (uninterrupted : Event.crash ∉ log) : incarnation log = log :=
  incarnation_append [] uninterrupted

section Split

variable {before life : List (Event Value Output)}

theorem commit_split (uninterrupted : Event.crash ∉ life)
    (further : (position before).committed < (position (before ++ life)).committed) :
    ∃ earlier later, life =
      earlier ++ .commit (position (before ++ life)).committed :: later := by
  induction life using List.reverseRecOn with
  | nil =>
      rw [List.append_nil] at further
      exact absurd further (Int.lt_irrefl _)
  | append_singleton life event ih =>
      rw [List.mem_append, List.mem_singleton, not_or] at uninterrupted
      rw [← List.append_assoc, position_snoc] at further ⊢
      have passed : ((position (before ++ life)).after event).committed =
            (position (before ++ life)).committed → ∃ earlier later, life ++ [event] =
              earlier ++ .commit ((position (before ++ life)).after event).committed :: later := by
        intro same
        rw [same] at further ⊢
        obtain ⟨earlier, later, split⟩ := ih uninterrupted.1 further
        refine ⟨earlier, later ++ [event], ?_⟩
        rw [← List.cons_append, ← List.append_assoc, ← split]
      cases event with
      | commit sequence => exact ⟨life, [], rfl⟩
      | read sequence value => exact passed rfl
      | reread sequence value => exact passed rfl
      | handOver output => exact passed rfl
      | crash => exact absurd rfl uninterrupted.2

theorem read_split (ordered : InOrder (before ++ life)) (uninterrupted : Event.crash ∉ life)
    (further : (position before).next < (position (before ++ life)).next) :
    ∃ earlier value later,
      life = earlier ++ .read ((position (before ++ life)).next - 1) value :: later ∧
      (position (before ++ earlier)).next = (position (before ++ life)).next - 1 := by
  induction life using List.reverseRecOn with
  | nil =>
      rw [List.append_nil] at further
      exact absurd further (Int.lt_irrefl _)
  | append_singleton life event ih =>
      rw [List.mem_append, List.mem_singleton, not_or] at uninterrupted
      rw [← List.append_assoc] at ordered
      obtain ⟨ordered, fits⟩ := throughout_snoc.mp ordered
      rw [← List.append_assoc, position_snoc] at further ⊢
      have passed : ((position (before ++ life)).after event).next =
            (position (before ++ life)).next → ∃ earlier value later,
              life ++ [event] = earlier ++
                .read (((position (before ++ life)).after event).next - 1) value :: later ∧
              (position (before ++ earlier)).next =
                ((position (before ++ life)).after event).next - 1 := by
        intro same
        rw [same] at further ⊢
        obtain ⟨earlier, value, later, split, placed⟩ := ih ordered uninterrupted.1 further
        refine ⟨earlier, value, later ++ [event], ?_, placed⟩
        rw [← List.cons_append, ← List.append_assoc, ← split]
      cases event with
      | read sequence value =>
          have here : sequence = (position (before ++ life)).next := fits
          have next : ((position (before ++ life)).after
              (.read sequence value : Event Value Output)).next = sequence + 1 := rfl
          rw [next, Int.add_sub_cancel]
          exact ⟨life, value, [], rfl, here.symm⟩
      | reread sequence value => exact passed rfl
      | commit sequence => exact passed rfl
      | handOver output => exact passed rfl
      | crash => exact absurd rfl uninterrupted.2

end Split

def commits (log : List (Event Value Output)) : List Int :=
  log.filterMap fun
    | .commit sequence => some sequence
    | _ => none

theorem commits_append (first second : List (Event Value Output)) :
    commits (first ++ second) = commits first ++ commits second := by
  simp only [commits, List.filterMap_append]

theorem outputs_append (first second : List (Event Value Output)) :
    outputs (first ++ second) = outputs first ++ outputs second := by
  simp only [outputs, List.filterMap_append]

/-- The numbers that were read between two crashes are consecutive. -/
theorem reads_numbers (before : List (Event Value Output)) {rest : List (Event Value Output)}
    (ordered : InOrder (before ++ rest)) (uninterrupted : Event.crash ∉ rest) :
    (position before).next ≤ (position (before ++ rest)).next ∧
      (reads rest).map Prod.fst =
        (List.range ((position (before ++ rest)).next - (position before).next).toNat).map
          fun offset : Nat => (position before).next + offset := by
  induction rest using List.reverseRecOn with
  | nil =>
      rw [List.append_nil, Int.sub_self]
      exact ⟨Int.le_refl _, rfl⟩
  | append_singleton rest event ih =>
      rw [← List.append_assoc] at ordered ⊢
      obtain ⟨earlier, fits⟩ := throughout_snoc.mp ordered
      rw [List.mem_append, not_or] at uninterrupted
      obtain ⟨further, same⟩ := ih earlier uninterrupted.1
      rw [reads_append, position_snoc, List.map_append, same]
      cases event with
      | read sequence value =>
          have here : sequence = (position (before ++ rest)).next := fits
          have longer : (sequence + 1 - (position before).next).toNat =
              (sequence - (position before).next).toNat + 1 := by omega
          have last : (position before).next +
              ((sequence - (position before).next).toNat : Int) = sequence := by omega
          refine ⟨by simp only [Position.after]; omega, ?_⟩
          simp only [Position.after, ← here, longer, List.range_succ, List.map_append,
            List.map_singleton, last]
          rfl
      | reread sequence value => exact ⟨further, List.append_nil _⟩
      | commit sequence => exact ⟨further, List.append_nil _⟩
      | handOver output => exact ⟨further, List.append_nil _⟩
      | crash => exact absurd List.mem_cons_self uninterrupted.2

/-- Where every call hands over what it has read, all that was read is handed over, but for
what the call that is under way has read. -/
theorem reads_handed (given : Output → List (Int × Value))
    (before : List (Event Value Output)) {rest : List (Event Value Output)}
    (accounts : Throughout (fun earlier event => ∀ output, event = .handOver output →
      given output = reads (underway earlier)) (before ++ rest))
    (uninterrupted : Event.crash ∉ rest) :
    reads (underway before) ++ reads rest =
      (outputs rest).flatMap given ++ reads (underway (before ++ rest)) := by
  induction rest using List.reverseRecOn with
  | nil =>
      rw [List.append_nil]
      exact List.append_nil _
  | append_singleton rest event ih =>
      rw [← List.append_assoc] at accounts ⊢
      obtain ⟨earlier, last⟩ := throughout_snoc.mp accounts
      rw [List.mem_append, not_or] at uninterrupted
      have same := ih earlier uninterrupted.1
      rw [reads_append, ← List.append_assoc, same, outputs_append, List.flatMap_append]
      cases event with
      | read sequence value =>
          rw [underway_read, reads_append]
          simp [outputs]
      | reread sequence value =>
          rw [underway_reread, reads_append]
          simp [outputs]
      | commit sequence =>
          rw [underway_commit, reads_append]
          simp [outputs]
      | handOver output =>
          rw [underway_handOver, ← last output rfl]
          simp [outputs, reads]
      | crash => exact absurd List.mem_cons_self uninterrupted.2

end Delivery
