/-
The names of the shared-memory objects of a segment.

Every name is the name of the segment and a suffix that tells what the object is for.
Segments and consumer ids are free strings, so a suffix may end one name where another
begins. Two segments have no name in common unless one is called like an object of the
other, or an id of one of them is made up of more than one part.
-/

import Mathlib.Data.List.Basic

namespace Naming

inductive Role where
  | ring
  | producerSequence
  | consumersReady
  | consumerRegistration
  | consumerSequence (consumerId : String)

def consumerReadinessSuffix : String := "_cr"

def consumerRegistrationSuffix : String := "_ci"

def autoConsumerPrefix : String := "ad"

def consumerReadinessCursorName (baseName : String) : String :=
  baseName ++ consumerReadinessSuffix

def consumerRegistrationCursorName (baseName : String) : String :=
  baseName ++ consumerRegistrationSuffix

def autoConsumerId (slot : Nat) : String :=
  autoConsumerPrefix ++ "_" ++ toString slot

def producerSequenceName (baseName : String) : String :=
  baseName ++ "_producer_seq"

def consumerSequenceName (baseName consumerId : String) : String :=
  baseName ++ "_" ++ consumerId ++ "_seq"

def objectName (baseName : String) : Role → String
  | .ring => baseName
  | .producerSequence => producerSequenceName baseName
  | .consumersReady => consumerReadinessCursorName baseName
  | .consumerRegistration => consumerRegistrationCursorName baseName
  | .consumerSequence consumerId => consumerSequenceName baseName consumerId

structure Segment where
  name : String
  consumerIds : List String
  nameNonempty : name ≠ ""
  idsNonempty : "" ∉ consumerIds

def Segment.Has (segment : Segment) : Role → Prop
  | .consumerSequence consumerId => consumerId ∈ segment.consumerIds
  | _ => True

def Segment.NamesDistinct (segment : Segment) : Prop :=
  ∀ first second, segment.Has first → segment.Has second → first ≠ second →
    objectName segment.name first ≠ objectName segment.name second

/-- No two objects have one name, neither of one of the two segments nor of both. -/
def NamesDistinct (left right : Segment) : Prop :=
  left.NamesDistinct ∧ right.NamesDistinct ∧ (left.name ≠ right.name →
    ∀ first second, left.Has first → right.Has second →
      objectName left.name first ≠ objectName right.name second)

/-! ### Suffixes -/

def Role.suffix : Role → List Char
  | .ring => []
  | .producerSequence => '_' :: "producer".toList ++ "_seq".toList
  | .consumersReady => "_cr".toList
  | .consumerRegistration => "_ci".toList
  | .consumerSequence consumerId => '_' :: consumerId.toList ++ "_seq".toList

theorem objectName_toList (baseName : String) (role : Role) :
    (objectName baseName role).toList = baseName.toList ++ role.suffix := by
  cases role with
  | ring => exact (List.append_nil _).symm
  | producerSequence => exact String.toList_append
  | consumersReady => exact String.toList_append
  | consumerRegistration => exact String.toList_append
  | consumerSequence consumerId =>
      simp only [objectName, consumerSequenceName, String.toList_append, List.append_assoc]
      rfl

/-- The id that a cursor of the segment is named after. The producer has one too. -/
def Role.id? : Role → Option String
  | .producerSequence => some "producer"
  | .consumerSequence consumerId => some consumerId
  | _ => none

theorem suffix_of_id {role : Role} {consumerId : String} (named : role.id? = some consumerId) :
    role.suffix = '_' :: consumerId.toList ++ "_seq".toList := by
  cases role with
  | producerSequence =>
      cases named
      rfl
  | consumerSequence other =>
      cases named
      rfl
  | ring => cases named
  | consumersReady => cases named
  | consumerRegistration => cases named

theorem role_cases (role : Role) : role = .ring ∨ role = .consumersReady ∨
    role = .consumerRegistration ∨ ∃ consumerId, role.id? = some consumerId := by
  cases role with
  | ring => exact .inl rfl
  | consumersReady => exact .inr (.inl rfl)
  | consumerRegistration => exact .inr (.inr (.inl rfl))
  | producerSequence => exact .inr (.inr (.inr ⟨_, rfl⟩))
  | consumerSequence consumerId => exact .inr (.inr (.inr ⟨consumerId, rfl⟩))

theorem suffix_last (role : Role) : role.suffix.getLast? = match role with
    | .ring => none
    | .consumersReady => some 'r'
    | .consumerRegistration => some 'i'
    | _ => some 'q' := by
  cases role with
  | ring => rfl
  | consumersReady => rfl
  | consumerRegistration => rfl
  | producerSequence => rfl
  | consumerSequence consumerId =>
      have nonempty : "_seq".toList ≠ [] := by decide
      simp only [Role.suffix]
      rw [List.getLast?_append_of_ne_nil _ nonempty]
      rfl

theorem ids_of_suffix {first second : Role} {left right : String}
    (named : first.id? = some left) (namedToo : second.id? = some right)
    (same : first.suffix = second.suffix) : left = right := by
  rw [suffix_of_id named, suffix_of_id namedToo] at same
  have cursors := List.append_cancel_right same
  exact String.toList_injective (List.cons.inj cursors).2

theorem suffix_inj {first second : Role} (same : first.suffix = second.suffix) :
    first = second ∨ first.id? = some "producer" ∧ second.id? = some "producer" := by
  have last : first.suffix.getLast? = second.suffix.getLast? := congrArg List.getLast? same
  rw [suffix_last, suffix_last] at last
  cases first with
  | ring => cases second <;> first | exact .inl rfl | cases last
  | consumersReady => cases second <;> first | exact .inl rfl | cases last
  | consumerRegistration => cases second <;> first | exact .inl rfl | cases last
  | producerSequence =>
      cases second with
      | producerSequence => exact .inl rfl
      | consumerSequence consumerId =>
          have called : "producer" = consumerId := ids_of_suffix rfl rfl same
          exact .inr ⟨rfl, congrArg some called.symm⟩
      | ring => cases last
      | consumersReady => cases last
      | consumerRegistration => cases last
  | consumerSequence consumerId =>
      cases second with
      | producerSequence =>
          have called : consumerId = "producer" := ids_of_suffix rfl rfl same
          exact .inr ⟨congrArg some called, rfl⟩
      | consumerSequence other =>
          have called : consumerId = other := ids_of_suffix rfl rfl same
          exact .inl (congrArg Role.consumerSequence called)
      | ring => cases last
      | consumersReady => cases last
      | consumerRegistration => cases last

theorem suffix_counter {first second : Role} {before : List Char}
    (counter : second = .consumersReady ∨ second = .consumerRegistration)
    (same : first.suffix = before ++ second.suffix) : before = [] := by
  have nonempty : second.suffix ≠ [] := by
    rcases counter with rfl | rfl
    · decide
    · decide
  have last : first.suffix.getLast? = second.suffix.getLast? := by
    rw [same, List.getLast?_append_of_ne_nil _ nonempty]
  rw [suffix_last, suffix_last] at last
  have equal : first = second := by
    rcases counter with rfl | rfl
    · cases first <;> first | rfl | cases last
    · cases first <;> first | rfl | cases last
  rw [equal] at same
  exact List.self_eq_append_left.mp same

/-- A suffix within another is that of the ring, or it is left of an id of more parts. -/
theorem suffix_within {first second : Role} {before : List Char} (nonempty : before ≠ [])
    (same : first.suffix = before ++ second.suffix) : second = .ring ∨
      ∃ consumerId part last, first = .consumerSequence consumerId ∧ second.id? = some last ∧
        before = '_' :: part ∧ consumerId.toList = part ++ '_' :: last.toList := by
  rcases role_cases second with ring | ready | registration | ⟨last, named⟩
  · exact .inl ring
  · exact absurd (suffix_counter (.inl ready) same) nonempty
  · exact absurd (suffix_counter (.inr registration) same) nonempty
  · rcases role_cases first with rfl | rfl | rfl | ⟨consumerId, namedToo⟩
    · rw [suffix_of_id named] at same
      exact absurd (congrArg List.length same) (by
        simp only [Role.suffix, List.length_nil, List.length_append, List.length_cons]
        omega)
    · have ends := congrArg List.getLast? same
      rw [suffix_of_id named, ← List.append_assoc,
        List.getLast?_append_of_ne_nil _ (by decide)] at ends
      cases ends
    · have ends := congrArg List.getLast? same
      rw [suffix_of_id named, ← List.append_assoc,
        List.getLast?_append_of_ne_nil _ (by decide)] at ends
      cases ends
    · rw [suffix_of_id named, suffix_of_id namedToo, ← List.append_assoc] at same
      have cursors := List.append_cancel_right same
      cases before with
      | nil => exact absurd rfl nonempty
      | cons head part =>
          obtain ⟨rfl, parts⟩ := List.cons.inj cursors
          have several : '_' ∈ consumerId.toList := by
            rw [parts]
            exact List.mem_append_right _ List.mem_cons_self
          cases first with
          | consumerSequence other =>
              cases namedToo
              exact .inr ⟨consumerId, part, last, rfl, named, rfl, parts⟩
          | producerSequence =>
              cases namedToo
              exact absurd several (by decide)
          | ring => cases namedToo
          | consumersReady => cases namedToo
          | consumerRegistration => cases namedToo

/-! ### When names are distinct -/

/-- The other segment is not called like an object of this one, nor like this one and a part
of an id of it that ends in an id of the other. -/
structure Segment.ApartFrom (segment other : Segment) : Prop where
  readiness : other.name ≠ consumerReadinessCursorName segment.name
  registration : other.name ≠ consumerRegistrationCursorName segment.name
  producer : other.name ≠ producerSequenceName segment.name
  consumers : ∀ consumerId ∈ segment.consumerIds,
    other.name ≠ consumerSequenceName segment.name consumerId
  parts : ∀ part last, part ++ "_" ++ last ∈ segment.consumerIds →
    last = "producer" ∨ last ∈ other.consumerIds → other.name ≠ segment.name ++ "_" ++ part

def Segment.Separate (left right : Segment) : Prop :=
  "producer" ∉ left.consumerIds ∧ "producer" ∉ right.consumerIds ∧
    (left.name ≠ right.name → left.ApartFrom right ∧ right.ApartFrom left)

theorem segment_namesDistinct_iff (segment : Segment) :
    segment.NamesDistinct ↔ "producer" ∉ segment.consumerIds := by
  constructor
  · intro distinct called
    exact distinct .producerSequence (.consumerSequence "producer") trivial called
      Role.noConfusion (String.toList_injective (by
        rw [objectName_toList, objectName_toList]
        rfl))
  · intro uncalled first second has hasToo different same
    have suffixes : first.suffix = second.suffix := by
      have names := congrArg String.toList same
      rw [objectName_toList, objectName_toList] at names
      exact List.append_cancel_left names
    rcases suffix_inj suffixes with equal | ⟨named, namedToo⟩
    · exact different equal
    · cases first with
      | consumerSequence consumerId =>
          cases named
          exact uncalled has
      | producerSequence =>
          cases second with
          | producerSequence => exact different rfl
          | consumerSequence consumerId =>
              cases namedToo
              exact uncalled hasToo
          | ring => cases namedToo
          | consumersReady => cases namedToo
          | consumerRegistration => cases namedToo
      | ring => cases named
      | consumersReady => cases named
      | consumerRegistration => cases named

theorem distinct_of_apart {left right : Segment} (apart : left.ApartFrom right)
    {first second : Role} (has : left.Has first) (hasToo : right.Has second)
    {more : List Char} (nonempty : more ≠ [])
    (longer : right.name.toList = left.name.toList ++ more)
    (same : first.suffix = more ++ second.suffix) : False := by
  rcases suffix_within nonempty same with rfl | ⟨consumerId, part, last, rfl, named, rfl, parts⟩
  · have called : right.name = objectName left.name first := by
      apply String.toList_injective
      rw [objectName_toList, same, longer]
      simp only [Role.suffix, List.append_nil]
    cases first with
    | ring => exact nonempty (List.append_eq_nil_iff.mp same.symm).1
    | producerSequence => exact apart.producer called
    | consumersReady => exact apart.readiness called
    | consumerRegistration => exact apart.registration called
    | consumerSequence consumerId => exact apart.consumers consumerId has called
  · have whole : String.ofList part ++ "_" ++ last = consumerId := by
      apply String.toList_injective
      rw [String.toList_append, String.toList_append, String.toList_ofList, parts,
        List.append_assoc]
      rfl
    have known : last = "producer" ∨ last ∈ right.consumerIds := by
      cases second with
      | producerSequence =>
          cases named
          exact .inl rfl
      | consumerSequence other =>
          cases named
          exact .inr hasToo
      | ring => cases named
      | consumersReady => cases named
      | consumerRegistration => cases named
    have has : consumerId ∈ left.consumerIds := has
    rw [← whole] at has
    apply apart.parts (String.ofList part) last has known
    apply String.toList_injective
    simp only [longer, String.toList_append, String.toList_ofList, List.append_assoc]
    rfl

/-- A name that is shared shows that one of the two is called like an object of the other. -/
theorem apart_of_distinct {left right : Segment}
    (distinct : ∀ first second, left.Has first → right.Has second →
      objectName left.name first ≠ objectName right.name second) : left.ApartFrom right where
  readiness := fun called => distinct .consumersReady .ring trivial trivial called.symm
  registration := fun called => distinct .consumerRegistration .ring trivial trivial called.symm
  producer := fun called => distinct .producerSequence .ring trivial trivial called.symm
  consumers := fun consumerId member called =>
    distinct (.consumerSequence consumerId) .ring member trivial called.symm
  parts := by
    intro part last member known called
    have shared : consumerSequenceName left.name (part ++ "_" ++ last) =
        consumerSequenceName right.name last := by
      rw [called]
      simp only [consumerSequenceName, String.append_assoc]
    rcases known with rfl | knows
    · apply distinct (.consumerSequence (part ++ "_" ++ "producer")) .producerSequence member
        trivial
      apply shared.trans
      apply String.toList_injective
      exact (objectName_toList right.name (.consumerSequence "producer")).trans
        (objectName_toList right.name .producerSequence).symm
    · exact distinct (.consumerSequence (part ++ "_" ++ last)) (.consumerSequence last) member
        knows shared

/-- The names are distinct exactly where no consumer is called like the producer, and no
segment like an object of the other or like the other and a part of an id. -/
theorem names_distinct_iff (left right : Segment) :
    NamesDistinct left right ↔ left.Separate right := by
  unfold NamesDistinct Segment.Separate
  rw [segment_namesDistinct_iff, segment_namesDistinct_iff]
  apply and_congr_right
  intro _uncalled
  apply and_congr_right
  intro _uncalledToo
  apply imp_congr_right
  intro different
  constructor
  · intro distinct
    exact ⟨apart_of_distinct distinct, apart_of_distinct (fun first second has hasToo same =>
      distinct second first hasToo has same.symm)⟩
  · rintro ⟨apart, apartToo⟩ first second has hasToo same
    have names := congrArg String.toList same
    rw [objectName_toList, objectName_toList] at names
    rcases List.append_eq_append_iff.mp names with ⟨more, longer, rest⟩ | ⟨more, longer, rest⟩
    · have nonempty : more ≠ [] := by
        rintro rfl
        exact different (String.toList_injective (longer.trans (List.append_nil _)).symm)
      exact distinct_of_apart apart has hasToo nonempty longer rest
    · have nonempty : more ≠ [] := by
        rintro rfl
        exact different (String.toList_injective (longer.trans (List.append_nil _)))
      exact distinct_of_apart apartToo hasToo has nonempty longer rest

/-- A consumer that is called like the producer shares its cursor. -/
def imitated : Segment :=
  { name := "ring", consumerIds := ["producer"], nameNonempty := by decide,
    idsNonempty := by decide }

def bystander : Segment :=
  { name := "other", consumerIds := [], nameNonempty := by decide, idsNonempty := by decide }

theorem producer_imitated : ¬ NamesDistinct imitated bystander := by
  rintro ⟨distinct, -, -⟩
  exact distinct .producerSequence (.consumerSequence "producer") trivial List.mem_cons_self
    Role.noConfusion (by decide)

end Naming
