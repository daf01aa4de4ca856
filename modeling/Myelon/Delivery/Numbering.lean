/-
Items that carry consecutive numbers.

Where every item knows its number, a window of numbers is a window of positions, so
what filters by number can be read as `take` and `drop`. Items that were collected in any
order, some of them more than once, are put in order again by sorting.
-/

import Mathlib.Data.List.Basic
import Mathlib.Data.List.Perm.Basic

namespace Delivery

variable {Item : Type} {number : Item → Nat}

def Numbered (number : Item → Nat) : Nat → List Item → Prop
  | _, [] => True
  | start, item :: later => number item = start ∧ Numbered number (start + 1) later

instance (number : Item → Nat) : ∀ (start : Nat) (items : List Item),
    Decidable (Numbered number start items)
  | _, [] => .isTrue trivial
  | start, item :: later =>
      have := instDecidableNumbered number (start + 1) later
      inferInstanceAs (Decidable (number item = start ∧ Numbered number (start + 1) later))

theorem Numbered.getElem? {start position : Nat} {items : List Item} {item : Item}
    (numbered : Numbered number start items) (found : items[position]? = some item) :
    number item = start + position := by
  induction items generalizing start position with
  | nil => cases found
  | cons first later ih =>
    cases position with
    | zero =>
      cases found
      exact numbered.1
    | succ position =>
      have counted := ih numbered.2 found
      omega

theorem Numbered.le_of_mem {start : Nat} {items : List Item} {item : Item}
    (numbered : Numbered number start items) (member : item ∈ items) :
    start ≤ number item ∧ number item < start + items.length := by
  obtain ⟨position, inside, found⟩ := List.getElem_of_mem member
  have counted := numbered.getElem? ((List.getElem?_eq_getElem inside).trans (congrArg some found))
  omega

theorem Numbered.filter_window {start : Nat} {items : List Item} (low high : Nat)
    (numbered : Numbered number start items) :
    items.filter (fun item => decide (low ≤ number item) && decide (number item < high)) =
      (items.take (high - start)).drop (low - start) := by
  induction items generalizing start with
  | nil => simp only [List.filter_nil, List.take_nil, List.drop_nil]
  | cons first later ih =>
    obtain ⟨counted, rest⟩ := numbered
    have behind := ih rest
    by_cases below : start < high
    · have kept : high - start = (high - (start + 1)) + 1 := by omega
      rw [kept, List.take_succ_cons]
      by_cases reached : low ≤ start
      · have inside : (decide (low ≤ number first) && decide (number first < high)) = true := by
          rw [counted, decide_eq_true reached, decide_eq_true below]
          rfl
        have nothing : low - start = 0 := by omega
        have stillNothing : low - (start + 1) = 0 := by omega
        rw [List.filter_cons, if_pos inside, behind, nothing, stillNothing, List.drop_zero,
          List.drop_zero]
      · have outside : ¬ (decide (low ≤ number first) && decide (number first < high)) = true := by
          rw [counted, decide_eq_false reached]
          exact Bool.false_ne_true
        have skipped : low - start = (low - (start + 1)) + 1 := by omega
        rw [List.filter_cons, if_neg outside, behind, skipped, List.drop_succ_cons]
    · have outside : ¬ (decide (low ≤ number first) && decide (number first < high)) = true := by
        rw [counted, decide_eq_false below, Bool.and_false]
        exact Bool.false_ne_true
      have none : high - start = 0 := by omega
      have stillNone : high - (start + 1) = 0 := by omega
      rw [List.filter_cons, if_neg outside, behind, none, stillNone, List.take_zero,
        List.take_zero, List.drop_nil, List.drop_nil]

theorem Numbered.drop {start : Nat} {items : List Item}
    (numbered : Numbered number start items) (count : Nat) :
    Numbered number (start + count) (items.drop count) := by
  induction count generalizing start items with
  | zero => exact numbered
  | succ count ih =>
    cases items with
    | nil => exact trivial
    | cons first later =>
      have next := ih numbered.2
      rw [show start + 1 + count = start + (count + 1) by omega] at next
      exact next

theorem Numbered.take {start : Nat} {items : List Item}
    (numbered : Numbered number start items) (count : Nat) :
    Numbered number start (items.take count) := by
  induction count generalizing start items with
  | zero => exact trivial
  | succ count ih =>
    cases items with
    | nil => exact trivial
    | cons first later => exact ⟨numbered.1, ih numbered.2⟩

/-! ### Putting items in order -/

theorem Numbered.increasing {start : Nat} {items : List Item}
    (numbered : Numbered number start items) :
    items.Pairwise (fun first second => number first < number second) := by
  induction items generalizing start with
  | nil => exact .nil
  | cons first later ih =>
    apply List.pairwise_cons.mpr
    constructor
    · intro second member
      have behind := numbered.2.le_of_mem member
      have counted := numbered.1
      omega
    · exact ih numbered.2

theorem Numbered.eq_of_increasing {start : Nat} {items picked : List Item}
    (numbered : Numbered number start items)
    (increasing : picked.Pairwise (fun first second => number first < number second))
    (same : ∀ item, item ∈ picked ↔ item ∈ items) : picked = items := by
  have distinct {list : List Item}
      (grows : list.Pairwise (fun first second => number first < number second)) : list.Nodup := by
    apply grows.imp
    intro first second less equal
    rw [equal] at less
    exact Nat.lt_irrefl _ less
  have permuted := (List.perm_ext_iff_of_nodup (distinct increasing)
    (distinct numbered.increasing)).mpr same
  apply permuted.eq_of_pairwise _ increasing numbered.increasing
  intro first second _ _ less more
  exact absurd less (Nat.lt_asymm more)

/-- Leave out each item that has the key of the one kept before it. -/
def dedupFrom (number : Item → Nat) (last : Item) : List Item → List Item
  | [] => []
  | item :: later =>
      if number item = number last then dedupFrom number last later
      else item :: dedupFrom number item later

def dedupByKey (number : Item → Nat) : List Item → List Item
  | [] => []
  | first :: later => first :: dedupFrom number first later

def sortByKey (number : Item → Nat) (items : List Item) : List Item :=
  items.mergeSort fun first second => decide (number first ≤ number second)

theorem sortByKey_ordered (number : Item → Nat) (items : List Item) :
    (sortByKey number items).Pairwise (fun first second => number first ≤ number second) := by
  apply (List.pairwise_mergeSort _ _ items).imp
  · intro first second ordered
    exact of_decide_eq_true ordered
  · intro first second third before after
    exact decide_eq_true (Nat.le_trans (of_decide_eq_true before) (of_decide_eq_true after))
  · intro first second
    rw [Bool.or_eq_true, decide_eq_true_eq, decide_eq_true_eq]
    exact Nat.le_total _ _

theorem filter_below_append {bound : Nat} {items : List Item}
    (ordered : items.Pairwise (fun first second => number first ≤ number second))
    (below : ∀ item ∈ items, number item < bound + 1) :
    items.filter (fun item => number item < bound) ++
      items.filter (fun item => number item = bound) = items := by
  induction items with
  | nil => rfl
  | cons first later ih =>
    obtain ⟨lower, ascending⟩ := List.pairwise_cons.mp ordered
    by_cases early : number first < bound
    · have late : ¬ number first = bound := Nat.ne_of_lt early
      have rest := ih ascending fun item member => below item (List.mem_cons_of_mem first member)
      rw [List.filter_cons, List.filter_cons, if_pos (decide_eq_true early),
        if_neg (by rw [decide_eq_false late]; exact Bool.false_ne_true), List.cons_append, rest]
    · have all : ∀ item ∈ first :: later, number item = bound := by
        intro item member
        have bounded := below item member
        have least : number first ≤ number item := by
          rcases List.mem_cons.mp member with same | behind
          · exact Nat.le_of_eq (congrArg number same.symm)
          · exact lower item behind
        omega
      have none : (first :: later).filter (fun item => number item < bound) = [] := by
        apply List.filter_eq_nil_iff.mpr
        intro item member less
        exact Nat.ne_of_lt (of_decide_eq_true less) (all item member)
      rw [none, List.nil_append, List.filter_eq_self]
      exact fun item member => decide_eq_true (all item member)

/-- Items in order are picked in their order by asking for one number after the other. -/
theorem flatMap_filter_range {bound : Nat} {items : List Item}
    (ordered : items.Pairwise (fun first second => number first ≤ number second))
    (below : ∀ item ∈ items, number item < bound) :
    (List.range bound).flatMap (fun asked => items.filter fun item => number item = asked) =
      items := by
  induction bound generalizing items with
  | zero =>
    cases items with
    | nil => rfl
    | cons first later => exact absurd (below first List.mem_cons_self) (Nat.not_lt_zero _)
  | succ bound ih =>
    have earlier := ih (ordered.filter fun item => decide (number item < bound))
      fun item member => of_decide_eq_true (List.mem_filter.mp member).2
    have picked : (List.range bound).flatMap (fun asked =>
        items.filter fun item => number item = asked) =
        items.filter fun item => number item < bound := by
      conv_rhs => rw [← earlier]
      apply List.flatMap_congr
      intro asked member
      rw [List.filter_filter]
      apply List.filter_congr
      intro item _
      have small := List.mem_range.mp member
      by_cases same : number item = asked
      · have less : number item < bound := by omega
        rw [decide_eq_true same, decide_eq_true less]
        rfl
      · rw [decide_eq_false same]
        rfl
    rw [List.range_succ, List.flatMap_append, picked, List.flatMap_cons, List.flatMap_nil,
      List.append_nil]
    exact filter_below_append ordered below

theorem dedupFrom_increasing {last : Item} {items : List Item}
    (ordered : (last :: items).Pairwise (fun first second => number first ≤ number second)) :
    (last :: dedupFrom number last items).Pairwise
      (fun first second => number first < number second) ∧
    ∀ item, item ∈ dedupFrom number last items → item ∈ items := by
  induction items generalizing last with
  | nil => exact ⟨List.pairwise_singleton _ _, fun item absent => absent⟩
  | cons first later ih =>
    rw [dedupFrom]
    obtain ⟨lower, ascending⟩ := List.pairwise_cons.mp ordered
    by_cases repeated : number first = number last
    · rw [if_pos repeated]
      have skipped : (last :: later).Pairwise
          (fun first second => number first ≤ number second) := by
        apply List.pairwise_cons.mpr
        constructor
        · intro item member
          exact lower item (List.mem_cons_of_mem first member)
        · exact (List.pairwise_cons.mp ascending).2
      obtain ⟨increasing, kept⟩ := ih skipped
      exact ⟨increasing, fun item member => List.mem_cons_of_mem first (kept item member)⟩
    · rw [if_neg repeated]
      obtain ⟨increasing, kept⟩ := ih ascending
      have greater : number last < number first :=
        Nat.lt_of_le_of_ne (lower first List.mem_cons_self) (Ne.symm repeated)
      constructor
      · apply List.pairwise_cons.mpr
        constructor
        · intro item member
          rcases List.mem_cons.mp member with same | behind
          · rw [same]
            exact greater
          · exact Nat.lt_trans greater ((List.pairwise_cons.mp increasing).1 item behind)
        · exact increasing
      · intro item member
        rcases List.mem_cons.mp member with same | behind
        · rw [same]
          exact List.mem_cons_self
        · exact List.mem_cons_of_mem first (kept item behind)

theorem dedupFrom_complete (number : Item → Nat) (last : Item) (items : List Item)
    {item : Item} (member : item ∈ items) :
    ∃ kept ∈ last :: dedupFrom number last items, number kept = number item := by
  induction items generalizing last with
  | nil => cases member
  | cons first later ih =>
    rw [dedupFrom]
    rcases List.mem_cons.mp member with same | behind
    · subst same
      by_cases repeated : number item = number last
      · exact ⟨last, List.mem_cons_self, repeated.symm⟩
      · rw [if_neg repeated]
        exact ⟨item, List.mem_cons_of_mem last List.mem_cons_self, rfl⟩
    · by_cases repeated : number first = number last
      · rw [if_pos repeated]
        exact ih last behind
      · rw [if_neg repeated]
        obtain ⟨kept, there, same⟩ := ih first behind
        exact ⟨kept, List.mem_cons_of_mem last there, same⟩

theorem dedupByKey_increasing {items : List Item}
    (ordered : items.Pairwise (fun first second => number first ≤ number second)) :
    (dedupByKey number items).Pairwise (fun first second => number first < number second) ∧
    ∀ item, item ∈ dedupByKey number items → item ∈ items := by
  cases items with
  | nil => exact ⟨.nil, fun item absent => absent⟩
  | cons first later =>
    obtain ⟨increasing, kept⟩ := dedupFrom_increasing ordered
    constructor
    · exact increasing
    · intro item member
      rcases List.mem_cons.mp member with same | behind
      · rw [same]
        exact List.mem_cons_self
      · exact List.mem_cons_of_mem first (kept item behind)

theorem dedupByKey_complete (number : Item → Nat) {items : List Item} {item : Item}
    (member : item ∈ items) :
    ∃ kept ∈ dedupByKey number items, number kept = number item := by
  cases items with
  | nil => cases member
  | cons first later =>
    rcases List.mem_cons.mp member with same | behind
    · rw [same]
      exact ⟨first, List.mem_cons_self, rfl⟩
    · exact dedupFrom_complete number first later behind

theorem Numbered.eq_of_number {start : Nat} {items : List Item}
    (numbered : Numbered number start items) {item other : Item} (member : item ∈ items)
    (otherMember : other ∈ items) (same : number item = number other) : item = other := by
  obtain ⟨position, found⟩ := List.mem_iff_getElem?.mp member
  obtain ⟨otherPosition, otherFound⟩ := List.mem_iff_getElem?.mp otherMember
  have counted := numbered.getElem? found
  have otherCounted := numbered.getElem? otherFound
  have samePosition : position = otherPosition := by omega
  rw [samePosition, otherFound] at found
  exact (Option.some.inj found).symm

/-- Sorting what was collected, and leaving out what is there twice, gives the items back
that are all there. -/
theorem Numbered.sorted {start : Nat} {items : List Item}
    (numbered : Numbered number start items) (collected : List Item)
    (same : ∀ item, item ∈ collected ↔ item ∈ items) :
    dedupByKey number (sortByKey number collected) = items := by
  obtain ⟨increasing, kept⟩ := dedupByKey_increasing (sortByKey_ordered number collected)
  have sound (item : Item) (member : item ∈ dedupByKey number (sortByKey number collected)) :
      item ∈ items :=
    (same item).mp (List.mem_mergeSort.mp (kept item member))
  apply numbered.eq_of_increasing increasing
  intro item
  constructor
  · exact sound item
  · intro member
    obtain ⟨other, there, equal⟩ := dedupByKey_complete number
      (List.mem_mergeSort.mpr ((same item).mpr member) : item ∈ sortByKey number collected)
    rw [numbered.eq_of_number member (sound other there) equal.symm]
    exact there

end Delivery
