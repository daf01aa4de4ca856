/-
When a watcher raises an alarm.

The history of a participant holds what was seen of it and the alarms that were raised
for it. A window of it begins behind each sighting that shows progress. The alarm of a
window belongs to its first sighting that comes too late, and to no other.
-/

import Mathlib.Data.List.Basic
import Myelon.Watch.Sighting

namespace Watch

inductive Noted (Alarm : Type) where
  | saw (sighting : Sighting)
  | raised (alarm : Alarm)

variable {Alarm : Type}

namespace Noted

def isRaised : Noted Alarm → Bool
  | .saw _ => false
  | .raised _ => true

end Noted

/-- Where a history stands, and what was noted since progress was last shown. -/
structure Account (Alarm : Type) where
  standing : Standing
  window : List (Noted Alarm)

namespace Account

def after (floor : Int) (account : Account Alarm) : Noted Alarm → Account Alarm
  | .saw sighting =>
      { standing := sighting.after floor account.standing
        window :=
          if sighting.Shows account.standing.highest then []
          else account.window ++ [.saw sighting] }
  | .raised alarm => { account with window := account.window ++ [.raised alarm] }

def raised (account : Account Alarm) : Nat :=
  account.window.countP Noted.isRaised

end Account

def account (floor : Int) (start : Nat) (history : List (Noted Alarm)) : Account Alarm :=
  history.foldl (Account.after floor)
    { standing := { highest := floor, since := start }, window := [] }

/-- A sighting without progress for the length of the timeout. -/
def Overdue (timeout : Nat) (standing : Standing) (sighting : Sighting) : Prop :=
  ¬ sighting.Shows standing.highest ∧ standing.since + timeout ≤ sighting.time

/-- The first such sighting of its window. The standing is the same throughout a window. -/
def FirstOverdue (timeout : Nat) (account : Account Alarm) (sighting : Sighting) : Prop :=
  Overdue timeout account.standing sighting ∧
    ∀ earlier, .saw earlier ∈ account.window → ¬ Overdue timeout account.standing earlier

/-- A history in which the first overdue sighting of each window is followed by an alarm,
and nothing else is. -/
inductive Alerting (floor : Int) (start timeout : Nat) : List (Noted Alarm) → Prop where
  | nothing : Alerting floor start timeout []
  | silent {history : List (Noted Alarm)} {sighting : Sighting}
      (before : Alerting floor start timeout history)
      (due : ¬ FirstOverdue timeout (account floor start history) sighting) :
      Alerting floor start timeout (history ++ [.saw sighting])
  | alarms {history : List (Noted Alarm)} {sighting : Sighting} {alarm : Alarm}
      (before : Alerting floor start timeout history)
      (due : FirstOverdue timeout (account floor start history) sighting) :
      Alerting floor start timeout (history ++ [.saw sighting] ++ [.raised alarm])

section

variable {floor : Int} {start timeout : Nat} {history : List (Noted Alarm)}
variable {sighting : Sighting} {alarm : Alarm}

theorem account_saw : account floor start (history ++ [.saw sighting]) =
    { standing := sighting.after floor (account floor start history).standing
      window :=
        if sighting.Shows (account floor start history).standing.highest then []
        else (account floor start history).window ++ [.saw sighting] } := by
  unfold account
  rw [List.foldl_append]
  rfl

theorem account_raised : account floor start (history ++ [.raised alarm]) =
    { account floor start history with
      window := (account floor start history).window ++ [.raised alarm] } := by
  unfold account
  rw [List.foldl_append]
  rfl

/-- Whoever shows progress starts a new window. -/
theorem account_shows
    (shows : sighting.Shows (account floor start history).standing.highest) :
    (account floor start (history ++ [.saw sighting])).window = [] := by
  rw [account_saw]
  exact if_pos shows

theorem account_still
    (still : ¬ sighting.Shows (account floor start history).standing.highest) :
    account floor start (history ++ [.saw sighting]) =
      { account floor start history with
        window := (account floor start history).window ++ [.saw sighting] } := by
  rw [account_saw, after_still still, if_neg still]

/-! ### The alarms of a window -/

/-- Either nothing has been overdue and no alarm was raised, or one was. -/
def Settled (timeout : Nat) (account : Account Alarm) : Prop :=
  (account.raised = 0 ∧
      ∀ earlier, .saw earlier ∈ account.window → ¬ Overdue timeout account.standing earlier) ∨
    (account.raised = 1 ∧
      ∃ earlier, .saw earlier ∈ account.window ∧ Overdue timeout account.standing earlier)

theorem raised_append (first second : List (Noted Alarm)) (standing : Standing) :
    (Account.mk standing (first ++ second)).raised =
      (Account.mk standing first).raised + (Account.mk standing second).raised := by
  simp only [Account.raised, List.countP_append]

theorem Settled.sees (settled : Settled timeout (account floor start history))
    (due : ¬ FirstOverdue timeout (account floor start history) sighting) :
    Settled timeout (account floor start (history ++ [.saw sighting])) := by
  by_cases shows : sighting.Shows (account floor start history).standing.highest
  · left
    constructor
    · unfold Account.raised
      rw [account_shows shows]
      rfl
    · intro earlier member
      rw [account_shows shows] at member
      cases member
  · rw [account_still shows]
    rcases settled with ⟨none, early⟩ | ⟨one, earlier, member, overdue⟩
    · left
      constructor
      · rw [raised_append]
        exact none
      · intro earlier member overdue
        rcases List.mem_append.mp member with before | last
        · exact early earlier before overdue
        · cases List.mem_singleton.mp last
          exact due ⟨overdue, early⟩
    · right
      constructor
      · rw [raised_append]
        exact one
      · exact ⟨earlier, List.mem_append_left _ member, overdue⟩

theorem Settled.raises (settled : Settled timeout (account floor start history))
    (due : FirstOverdue timeout (account floor start history) sighting) :
    Settled timeout (account floor start (history ++ [.saw sighting] ++ [.raised alarm])) := by
  rw [account_raised, account_still due.1.1]
  rcases settled with ⟨none, _early⟩ | ⟨_one, earlier, member, overdue⟩
  · right
    constructor
    · rw [raised_append, raised_append]
      change (account floor start history).raised + 0 + 1 = 1
      rw [none]
    · refine ⟨sighting, ?_, due.1⟩
      exact List.mem_append_left _ (List.mem_append_right _ List.mem_cons_self)
  · exact absurd overdue (due.2 earlier member)

theorem Alerting.settled (alerting : Alerting floor start timeout history) :
    Settled timeout (account floor start history) := by
  induction alerting with
  | nothing => exact .inl ⟨rfl, nofun⟩
  | silent before due ih => exact Settled.sees ih due
  | alarms before due ih => exact Settled.raises ih due

theorem Settled.raised_le_one {account : Account Alarm} (settled : Settled timeout account) :
    account.raised ≤ 1 := by
  rcases settled with ⟨none, _⟩ | ⟨one, _⟩ <;> omega

/-- At no time has a window more than one alarm. -/
theorem Alerting.one_alarm (alerting : Alerting floor start timeout history)
    {before : List (Noted Alarm)} (within : before <+: history) :
    (account floor start before).raised ≤ 1 := by
  induction alerting with
  | nothing =>
      rw [List.prefix_nil.mp within]
      exact Nat.zero_le 1
  | silent earlier due ih =>
      rcases List.prefix_concat_iff.mp within with whole | shorter
      · rw [whole]
        exact (earlier.silent due).settled.raised_le_one
      · exact ih shorter
  | @alarms history sighting alarm earlier due ih =>
      rcases List.prefix_concat_iff.mp within with whole | shorter
      · rw [whole]
        exact (earlier.alarms due).settled.raised_le_one
      · rcases List.prefix_concat_iff.mp shorter with seen | shorter
        · rw [seen, account_still due.1.1, raised_append]
          exact earlier.settled.raised_le_one
        · exact ih shorter

/-! ### Where an alarm stands -/

theorem split_concat {Item : Type} {before later whole : List Item} {item last : Item}
    (same : before ++ item :: later = whole ++ [last]) :
    (before = whole ∧ item = last ∧ later = []) ∨
      ∃ rest, later = rest ++ [last] ∧ before ++ item :: rest = whole := by
  rcases List.eq_nil_or_concat later with empty | ⟨rest, end', rfl⟩
  · subst empty
    obtain ⟨first, second⟩ := List.append_inj' same rfl
    exact .inl ⟨first, List.head_eq_of_cons_eq second, rfl⟩
  · right
    rw [List.concat_eq_append, ← List.cons_append, ← List.append_assoc] at same
    obtain ⟨first, second⟩ := List.append_inj' same rfl
    refine ⟨rest, ?_, first⟩
    rw [List.concat_eq_append, List.head_eq_of_cons_eq second]

theorem Alerting.raised_for (alerting : Alerting floor start timeout history)
    {before later : List (Noted Alarm)} {alarm : Alarm}
    (whole : before ++ .raised alarm :: later = history) :
    ∃ earlier sighting, before = earlier ++ [.saw sighting] ∧
      FirstOverdue timeout (account floor start earlier) sighting := by
  induction alerting generalizing later with
  | nothing => exact absurd whole (by simp)
  | silent earlier due ih =>
      rcases split_concat whole with ⟨_, impossible, _⟩ | ⟨rest, _, shorter⟩
      · cases impossible
      · exact ih shorter
  | @alarms history sighting alarm earlier due ih =>
      rcases split_concat whole with ⟨same, _, _⟩ | ⟨rest, _, shorter⟩
      · exact ⟨history, sighting, same, due⟩
      · rcases split_concat shorter with ⟨_, impossible, _⟩ | ⟨rest, _, shorter⟩
        · cases impossible
        · exact ih shorter

/-- The first overdue sighting of a window is followed by an alarm. -/
theorem Alerting.raises (alerting : Alerting floor start timeout history)
    {before later : List (Noted Alarm)} {sighting : Sighting}
    (whole : before ++ .saw sighting :: later = history)
    (due : FirstOverdue timeout (account floor start before) sighting) :
    ∃ alarm rest, later = .raised alarm :: rest := by
  induction alerting generalizing later with
  | nothing => exact absurd whole (by simp)
  | silent earlier quiet ih =>
      rcases split_concat whole with ⟨same, here, _⟩ | ⟨rest, more, shorter⟩
      · cases here
        rw [same] at due
        exact absurd due quiet
      · obtain ⟨alarm, others, first⟩ := ih shorter
        rw [more, first]
        exact ⟨alarm, _, rfl⟩
  | @alarms history last alarm earlier _due ih =>
      rcases split_concat whole with ⟨_, impossible, _⟩ | ⟨rest, more, shorter⟩
      · cases impossible
      · rcases split_concat shorter with ⟨_, _, empty⟩ | ⟨others, further, shortest⟩
        · rw [more, empty]
          exact ⟨alarm, [], rfl⟩
        · obtain ⟨raised, tail, first⟩ := ih shortest
          rw [more, further, first]
          exact ⟨raised, _, rfl⟩

end
end Watch
