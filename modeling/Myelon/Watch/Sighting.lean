/-
What a watcher sees of one participant that counts upwards.

A watch is seeded with a count, and then the participant is looked at from time to
time. A look shows progress when it shows a higher count than all before it, or
one that has caught up with the goal of the moment. A look may show nothing.
-/

import Mathlib.Init

namespace Watch

inductive Sighting where
  | seeded (time : Nat) (count : Option Int)
  | observed (time : Nat) (goal : Int) (count : Option Int)

/-- How high the participant has come, and when it was last seeded or seen to progress. -/
structure Standing where
  highest : Int
  since : Nat

namespace Sighting

def time : Sighting → Nat
  | .seeded time _ => time
  | .observed time _ _ => time

/-- The participant is watched anew, or is seen to progress. -/
def Shows (highest : Int) : Sighting → Prop
  | .seeded _ _ => True
  | .observed _ goal count => ∃ seen, count = some seen ∧ (highest < seen ∨ goal ≤ seen)

instance (highest : Int) (sighting : Sighting) : Decidable (sighting.Shows highest) :=
  match sighting with
  | .seeded _ _ => isTrue trivial
  | .observed _ _ none => isFalse nofun
  | .observed _ goal (some seen) =>
      decidable_of_iff (highest < seen ∨ goal ≤ seen)
        ⟨fun shows => ⟨seen, rfl, shows⟩, fun ⟨_, same, shows⟩ => Option.some.inj same ▸ shows⟩

def highest (floor before : Int) : Sighting → Int
  | .seeded _ count => count.getD floor
  | .observed _ _ none => before
  | .observed _ _ (some seen) => max before seen

def after (floor : Int) (standing : Standing) (sighting : Sighting) : Standing :=
  { highest := sighting.highest floor standing.highest
    since := if sighting.Shows standing.highest then sighting.time else standing.since }

end Sighting

def standing (floor : Int) (start : Nat) (sightings : List Sighting) : Standing :=
  sightings.foldl (Sighting.after floor) { highest := floor, since := start }

section

variable {floor : Int} {start timeout stalledAt : Nat} {sightings : List Sighting}
variable {sighting : Sighting}

theorem standing_snoc : standing floor start (sightings ++ [sighting]) =
    sighting.after floor (standing floor start sightings) := by
  unfold standing
  rw [List.foldl_append]
  rfl

theorem after_still {before : Standing} (still : ¬ sighting.Shows before.highest) :
    sighting.after floor before = before := by
  unfold Sighting.after
  rw [if_neg still]
  cases sighting with
  | seeded time count => exact absurd trivial still
  | observed time goal count =>
      cases count with
      | none => rfl
      | some seen =>
          have behind : ¬ before.highest < seen := fun higher =>
            still ⟨seen, rfl, .inl higher⟩
          have kept : max before.highest seen = before.highest := by omega
          simp only [Sighting.highest, kept]

/-- A look at `stalledAt` found no progress for the length of the timeout, and none
was seen from it on. -/
def StalledFrom (floor : Int) (start timeout : Nat) (sightings : List Sighting)
    (stalledAt : Nat) : Prop :=
  ∃ before goal count later,
    sightings = before ++ .observed stalledAt goal count :: later ∧
    (standing floor start before).since + timeout ≤ stalledAt ∧
    ∀ sighting ∈ Sighting.observed stalledAt goal count :: later,
      ¬ sighting.Shows (standing floor start before).highest

theorem still_standing {before later : List Sighting}
    (still : ∀ sighting ∈ later, ¬ sighting.Shows (standing floor start before).highest) :
    standing floor start (before ++ later) = standing floor start before := by
  unfold standing at still ⊢
  rw [List.foldl_append]
  induction later with
  | nil => rfl
  | cons first rest ih =>
      rw [List.foldl_cons, after_still (still first List.mem_cons_self)]
      exact ih fun sighting member => still sighting (List.mem_cons_of_mem _ member)

/-- The stall begins with a look that comes late enough. -/
theorem StalledFrom.begin {time : Nat} {goal : Int} {count : Option Int}
    (late : (standing floor start sightings).since + timeout ≤ time)
    (still : ¬ (Sighting.observed time goal count).Shows
      (standing floor start sightings).highest) :
    StalledFrom floor start timeout (sightings ++ [.observed time goal count]) time := by
  refine ⟨sightings, goal, count, [], rfl, late, ?_⟩
  intro sighting member
  rw [List.mem_singleton.mp member]
  exact still

theorem StalledFrom.goesOn (stalled : StalledFrom floor start timeout sightings stalledAt)
    (still : ¬ sighting.Shows (standing floor start sightings).highest) :
    StalledFrom floor start timeout (sightings ++ [sighting]) stalledAt := by
  obtain ⟨before, goal, count, later, rfl, late, without⟩ := stalled
  rw [still_standing without] at still
  refine ⟨before, goal, count, later ++ [sighting], ?_, late, ?_⟩
  · simp only [List.append_assoc, List.cons_append]
  · intro other member
    rw [← List.cons_append] at member
    rcases List.mem_append.mp member with earlier | last
    · exact without other earlier
    · rw [List.mem_singleton.mp last]
      exact still

end
end Watch
