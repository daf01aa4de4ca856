/-
What every process does that attaches to a cursor and uses it.

A contract about the creation of a cursor leaves these actions free: nothing has to
be known to take them. All that an attachment passes on is that there is a segment.
-/

import Myelon.Cursor.Segment
import Myelon.Interleaving.RelyGuarantee

namespace Cursor

open Interleaving Delivery

def Action.free : Action → Bool
  | .create _ => false
  | .openTruncated _ => false
  | .writeInitial _ => false
  | .returned _ _ => false
  | _ => true

structure Lenient (contract : Contract machine) (process : ProcessId) : Prop where
  free : ∀ {action : Action} {world : World}, action.free = true →
    contract.guarantee process () action world
  there : ∀ {before after : World}, contract.rely process before after →
    before.segment ≠ none → after.segment ≠ none

def Usable (opened : Opened) (world : World) : Prop := opened ≠ none → world.segment ≠ none

variable {contract : Contract machine} {process : ProcessId}

theorem triple_act {pre : World → Prop} {action : Action}
    {post : action.Result → World → Prop}
    (stable : ∀ before after, contract.rely process before after → pre before → pre after)
    (kept : ∀ world, pre world → contract.invariant world →
      contract.condition process () action world →
      contract.guarantee process () action world ∧
      ∀ call result after, perform action call world = some (result, after) →
        post result after) :
    contract.Triple process (fun _ => pre) (act action) (fun result _ => post result) :=
  Contract.Triple.perform (fun _ world before holds relied invariant met =>
    kept before (stable world before relied holds) invariant met)

namespace Lenient

variable (lenient : Lenient contract process)

include lenient

theorem anytime {action : Action} (free : action.free = true) :
    contract.Triple process (fun _ _ => True) (act action) (fun _ _ _ => True) :=
  triple_act (fun _ _ _ _ => trivial)
    (fun _ _ _ _ => ⟨lenient.free free, fun _ _ _ _ => trivial⟩)

theorem attach_triple :
    contract.Triple process (fun _ _ => True) (attach process)
      (fun opened _ world => opened ≠ some true ∧ Usable opened world) := by
  refine Contract.Triple.bind (lenient.anytime rfl) (fun found => ?_)
  by_cases there : found = true
  · rw [if_pos there]
    refine Contract.Triple.through (fun _ _ world => world.segment ≠ none)
      (triple_act (fun _ _ _ _ => trivial) ?_) (fun valid => ?_)
    · intro world _ _ _
      refine ⟨lenient.free rfl, fun call result after performed => ?_⟩
      simp only [perform, Option.map_eq_some_iff] at performed
      obtain ⟨segment, placed, read⟩ := performed
      split at read <;> cases read <;>
        exact fun none => absurd (placed.symm.trans none) (Option.some_ne_none _)
    · refine Contract.Triple.pure _ (fun _ _ held => ⟨?_, fun _ => held⟩)
      split <;> decide
  · rw [if_neg there]
    exact Contract.Triple.pure _ (fun _ _ _ => ⟨by decide, fun opened => absurd rfl opened⟩)

theorem initialise_triple {pre : World → Prop} (post : World → Prop) {initialValue : Int}
    (stable : ∀ before after, contract.rely process before after → pre before → pre after)
    (indifferent : ∀ {world : World} {segment : Segment}, pre world → pre (world.put segment))
    (kept : ∀ world, pre world → contract.invariant world →
      contract.condition process () (.writeInitial initialValue) world →
      contract.guarantee process () (.writeInitial initialValue) world ∧
      ∀ segment, post ((world.put segment).record (.initialised initialValue))) :
    contract.Triple process (fun _ => pre) (initialise initialValue)
      (fun opened _ world => opened ≠ none → post world ∧ world.segment ≠ none) := by
  refine Contract.Triple.through (fun _ _ => pre) (triple_act stable ?_) (fun written => ?_)
  · intro world held _ _
    refine ⟨lenient.free rfl, fun call result after performed => ?_⟩
    simp only [perform, Option.map_eq_some_iff] at performed
    obtain ⟨segment, _placed, wrote⟩ := performed
    split at wrote <;> cases wrote
    · exact indifferent held
    · exact held
  · by_cases succeeded : written = true
    · rw [if_pos succeeded]
      refine Contract.Triple.through (fun _ _ world => post world ∧ world.segment ≠ none)
        (triple_act stable ?_) (fun _ => Contract.Triple.pure _ (fun _ _ held _ => held))
      intro world held invariant met
      obtain ⟨guaranteed, wrote⟩ := kept world held invariant met
      refine ⟨guaranteed, fun call result after performed => ?_⟩
      simp only [perform, onSegment] at performed
      split at performed
      · split at performed <;> cases performed
        exact ⟨wrote _, Option.some_ne_none _⟩
      · cases performed
    · rw [if_neg succeeded]
      exact Contract.Triple.pure _ (fun _ _ _ opened => absurd rfl opened)

theorem setLen_triple {pre : World → Prop}
    (stable : ∀ before after, contract.rely process before after → pre before → pre after)
    (indifferent : ∀ {world : World} {segment : Segment}, pre world → pre (world.put segment)) :
    contract.Triple process (fun _ => pre) (act .setLen) (fun _ _ => pre) := by
  refine triple_act stable (fun world held _ _ =>
    ⟨lenient.free rfl, fun call result after performed => ?_⟩)
  simp only [perform, Option.map_eq_some_iff] at performed
  obtain ⟨segment, _placed, sized⟩ := performed
  cases sized
  exact indifferent held

theorem serve_triple :
    contract.Triple process (fun _ _ => True) serve (fun _ _ _ => True) := by
  refine Contract.Triple.bind (lenient.anytime rfl) (fun call => ?_)
  cases call with
  | load =>
      exact Contract.Triple.bind (lenient.anytime rfl)
        (fun _ => Contract.Triple.pure () (fun _ _ held => held))
  | store value => exact lenient.anytime rfl
  | fetchAdd amount =>
      exact Contract.Triple.bind (lenient.anytime rfl)
        (fun _ => Contract.Triple.pure () (fun _ _ held => held))

/-- Whoever got the cursor, and may say so, may use it for ever. -/
theorem holding_safe {opened : Opened} {world : World}
    (returns : ∀ owner, opened = some owner → ∀ before, contract.rely process world before →
      contract.guarantee process () (.returned process owner) before) (fuel : Nat) :
    contract.Safe process fuel (holding process opened) (fun _ _ => True) world := by
  cases opened with
  | none => cases fuel <;> trivial
  | some owner =>
      cases fuel with
      | zero => trivial
      | succ fuel =>
          intro before relied _invariant _met
          refine ⟨returns owner rfl before relied, fun call result after _accepted performed => ?_⟩
          exact Contract.Triple.forever lenient.serve_triple trivial fuel _

end Lenient
end Cursor
