/-
Machines which write down what they obey.

A machine that obeys some requests and refuses others keeps a journal of those it obeyed. Where
each entry lets the request be read back, the journal replayed from the start leads to the very
state that wrote it, whatever was refused in between.
-/

import Mathlib.Data.List.Basic

namespace Delivery

structure Journal (State Request Entry : Type) where
  obey : State → Request → Option State
  entries : State → List Entry
  /-- The request that an entry written in a state stands for. -/
  recover : State → Entry → Request
  written : ∀ {state next : State} {request : Request}, obey state request = some next →
    ∃ entry, entries next = entries state ++ [entry] ∧ obey state (recover state entry) = some next

namespace Journal

variable {State Request Entry Mode Word : Type} (journal : Journal State Request Entry)

/-- A request that is refused changes nothing. -/
def attempt (state : State) (request : Request) : State :=
  (journal.obey state request).getD state

def serve (state : State) (requests : List Request) : State :=
  requests.foldl journal.attempt state

def replay (state : State) : List Entry → Option State
  | [] => some state
  | entry :: later => (journal.obey state (journal.recover state entry)).bind (replay · later)

theorem serve_cons (state : State) (request : Request) (requests : List Request) :
    journal.serve state (request :: requests) =
      journal.serve (journal.attempt state request) requests :=
  rfl

theorem attempt_cases (state : State) (request : Request) :
    journal.obey state request = none ∧ journal.attempt state request = state ∨
      journal.obey state request = some (journal.attempt state request) := by
  rw [attempt]
  cases obeyed : journal.obey state request with
  | none => exact .inl ⟨rfl, rfl⟩
  | some next => exact .inr rfl

theorem serve_keeps {kept : State → Prop}
    (keeps : ∀ {state next request}, journal.obey state request = some next → kept state →
      kept next)
    (requests : List Request) {state : State} (before : kept state) :
    kept (journal.serve state requests) := by
  induction requests generalizing state with
  | nil => exact before
  | cons request requests ih =>
    rw [serve_cons]
    rcases journal.attempt_cases state request with ⟨_, same⟩ | obeyed
    · rw [same]
      exact ih before
    · exact ih (keeps obeyed before)

theorem replay_serve (requests : List Request) (state : State) :
    ∃ added, journal.entries (journal.serve state requests) = journal.entries state ++ added ∧
      journal.replay state added = some (journal.serve state requests) := by
  induction requests generalizing state with
  | nil => exact ⟨[], (List.append_nil _).symm, rfl⟩
  | cons request requests ih =>
    rw [serve_cons]
    rcases journal.attempt_cases state request with ⟨_, same⟩ | obeyed
    · rw [same]
      exact ih state
    · obtain ⟨entry, wrote, again⟩ := journal.written obeyed
      obtain ⟨added, later, replayed⟩ := ih (journal.attempt state request)
      refine ⟨entry :: added, ?_, ?_⟩
      · rw [later, wrote, List.append_assoc]
        rfl
      · rw [replay, again]
        exact replayed

/-! ### Machines that go by their mode -/

/-- The mode a list of words leads to, if every word is allowed where it comes. -/
def follow (after : Mode → Word → Option Mode) (mode : Mode) : List Word → Option Mode
  | [] => some mode
  | word :: later => (after mode word).bind (follow after · later)

theorem follow_append (after : Mode → Word → Option Mode) (mode : Mode) (front back : List Word) :
    follow after mode (front ++ back) = (follow after mode front).bind (follow after · back) := by
  induction front generalizing mode with
  | nil => rfl
  | cons word front ih =>
    rw [List.cons_append, follow, follow, Option.bind_assoc]
    congr 1
    funext next
    exact ih next

section Modes

variable {after : Mode → Word → Option Mode} {mode : State → Mode} {word : Request → Word}
  {spelled : Entry → Word}

theorem follow_written
    (obeyed : ∀ {state next request}, journal.obey state request = some next →
      after (mode state) (word request) = some (mode next) ∧
        (journal.entries next).map spelled = (journal.entries state).map spelled ++ [word request])
    (requests : List Request) (state : State) :
    ∃ words, (journal.entries (journal.serve state requests)).map spelled =
        (journal.entries state).map spelled ++ words ∧
      follow after (mode state) words = some (mode (journal.serve state requests)) := by
  induction requests generalizing state with
  | nil => exact ⟨[], (List.append_nil _).symm, rfl⟩
  | cons request requests ih =>
    rw [serve_cons]
    rcases journal.attempt_cases state request with ⟨_, same⟩ | moved
    · rw [same]
      exact ih state
    · obtain ⟨words, later, followed⟩ := ih (journal.attempt state request)
      obtain ⟨allowed, wrote⟩ := obeyed moved
      refine ⟨word request :: words, ?_, ?_⟩
      · rw [later, wrote, List.append_assoc]
        rfl
      · rw [follow, allowed]
        exact followed

/-- All of a run is obeyed just when the modes allow every word of it. -/
theorem written_iff
    (obeyed : ∀ {state next request}, journal.obey state request = some next →
      after (mode state) (word request) = some (mode next) ∧
        (journal.entries next).map spelled = (journal.entries state).map spelled ++ [word request])
    (refused : ∀ {state request}, journal.obey state request = none →
      after (mode state) (word request) = none)
    (requests : List Request) (state : State) :
    (journal.entries (journal.serve state requests)).map spelled =
        (journal.entries state).map spelled ++ requests.map word ↔
      (follow after (mode state) (requests.map word)).isSome := by
  constructor
  · intro all
    obtain ⟨words, wrote, followed⟩ := journal.follow_written obeyed requests state
    rw [wrote] at all
    rw [← List.append_cancel_left all, followed]
    rfl
  · intro allowed
    induction requests generalizing state with
    | nil => exact (List.append_nil _).symm
    | cons request requests ih =>
      rw [serve_cons]
      rw [List.map_cons, follow] at allowed
      rcases journal.attempt_cases state request with ⟨stopped, _⟩ | moved
      · rw [refused stopped] at allowed
        cases allowed
      · obtain ⟨possible, wrote⟩ := obeyed moved
        rw [possible] at allowed
        rw [ih _ allowed, wrote, List.append_assoc]
        rfl

end Modes

end Journal

end Delivery
