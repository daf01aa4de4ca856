/-
The files of a transport over mapped files.

All of them are named after the segment, and the cursors of the consumers are in a
directory of their own. A consumer is found by the name of its file: the id is what stands
before the extension. Accepted names have no dot in them, so the first dot of a name ends
the segment and the last one the id.
-/

import Myelon.Layout.Header

namespace Naming

open Layout (MultiProcessError)

abbrev MultiProcessResult (α : Type) := Except MultiProcessError α

structure Path where
  components : List String
  deriving DecidableEq

namespace Path

/-- The path below a directory. Only names without a separator are joined to one. -/
def join (directory : Path) (name : String) : Path :=
  ⟨directory.components ++ [name]⟩

def fileName (path : Path) : Option String := path.components.getLast?

/-- What stands before the last dot of a name and what behind it. A name that has its only
dot at the front counts as one without. -/
def rsplitFileAtDot (file : String) : Option String × Option String :=
  if file = ".." then (some file, none)
  else
    let reversed := file.toList.reverse
    let after := (reversed.takeWhile (· ≠ '.')).reverse
    match reversed.dropWhile (· ≠ '.') with
    | [] => (none, some (String.ofList after))
    | [_] => (some file, none)
    | _ :: before => (some (String.ofList before.reverse), some (String.ofList after))

def extension (path : Path) : Option String := do
  let (before, after) := rsplitFileAtDot (← path.fileName)
  let _ ← before
  after

def fileStem (path : Path) : Option String := do
  let (before, after) := rsplitFileAtDot (← path.fileName)
  before <|> after

end Path

def ringSuffix : String := ".ring"

def producerCursorSuffix : String := ".producer.cursor"

def readinessCursorSuffix : String := ".ready.cursor"

def consumersDirSuffix : String := ".consumers"

def consumerCursorSuffix : String := ".cursor"

def isComponentChar (character : Char) : Bool :=
  character.isAlphanum || character == '_' || character == '-'

def validateComponent (label value : String) : MultiProcessResult Unit :=
  if value.isEmpty then .error (.sharedMemoryError (label ++ " must not be empty"))
  else if value.toList.any (fun character =>
      character == '/' || character == '\\' || character == Char.ofNat 0) then
    .error (.sharedMemoryError (label ++ " must not contain path separators or NUL bytes"))
  else if value.toList.all isComponentChar then .ok ()
  else
    .error (.sharedMemoryError (label ++ " must use only ASCII letters, digits, '_' or '-'"))

structure MmapTransportLayout where
  rootDir : Path
  segmentName : String
  ringPath : Path
  producerCursorPath : Path
  readinessCursorPath : Path
  consumersDir : Path
  deriving DecidableEq

namespace MmapTransportLayout

def new (rootDir : Path) (segmentName : String) : MultiProcessResult MmapTransportLayout :=
  if rootDir.components.isEmpty then
    .error (.sharedMemoryError "mmap root directory must not be empty")
  else do
    validateComponent "segment_name" segmentName
    return {
      rootDir
      segmentName
      ringPath := rootDir.join (segmentName ++ ringSuffix)
      producerCursorPath := rootDir.join (segmentName ++ producerCursorSuffix)
      readinessCursorPath := rootDir.join (segmentName ++ readinessCursorSuffix)
      consumersDir := rootDir.join (segmentName ++ consumersDirSuffix) }

def consumerCursorPath (layout : MmapTransportLayout) (consumerId : String) :
    MultiProcessResult Path := do
  validateComponent "consumer_id" consumerId
  return layout.consumersDir.join (consumerId ++ consumerCursorSuffix)

end MmapTransportLayout

inductive FileRole where
  | ring
  | producerCursor
  | readinessCursor
  | consumerCursor (consumerId : String)

namespace MmapTransportLayout

def path (layout : MmapTransportLayout) : FileRole → MultiProcessResult Path
  | .ring => .ok layout.ringPath
  | .producerCursor => .ok layout.producerCursorPath
  | .readinessCursor => .ok layout.readinessCursorPath
  | .consumerCursor consumerId => layout.consumerCursorPath consumerId

/-- The id under which a pass over the directory knows a file, if it takes the file for a
cursor. -/
def consumerIdOf (path : Path) : Option String :=
  if path.extension = some "cursor" then path.fileStem else none

end MmapTransportLayout

/-! ### Accepted names -/

structure Component (value : String) : Prop where
  nonempty : value.toList ≠ []
  noDot : '.' ∉ value.toList

theorem component_of_ok {label value : String} (accepted : validateComponent label value = .ok ()) :
    Component value := by
  unfold validateComponent at accepted
  split at accepted
  · cases accepted
  · rename_i some
    split at accepted
    · cases accepted
    · split at accepted
      · rename_i all
        constructor
        · intro none
          exact some (String.isEmpty_iff.mpr (String.toList_eq_nil_iff.mp none))
        · intro member
          have allowed := List.all_eq_true.mp all '.' member
          cases allowed
      · cases accepted

theorem new_ok {rootDir : Path} {segmentName : String} {layout : MmapTransportLayout}
    (accepted : MmapTransportLayout.new rootDir segmentName = .ok layout) :
    Component segmentName ∧
    layout.ringPath = rootDir.join (segmentName ++ ringSuffix) ∧
    layout.producerCursorPath = rootDir.join (segmentName ++ producerCursorSuffix) ∧
    layout.readinessCursorPath = rootDir.join (segmentName ++ readinessCursorSuffix) ∧
    layout.consumersDir = rootDir.join (segmentName ++ consumersDirSuffix) := by
  unfold MmapTransportLayout.new at accepted
  split at accepted
  · cases accepted
  · cases valid : validateComponent "segment_name" segmentName with
    | error failure =>
        rw [valid] at accepted
        cases accepted
    | ok _valid =>
        rw [valid] at accepted
        cases accepted
        exact ⟨component_of_ok valid, rfl, rfl, rfl, rfl⟩

theorem consumerCursorPath_ok {layout : MmapTransportLayout} {consumerId : String} {path : Path}
    (accepted : layout.consumerCursorPath consumerId = .ok path) :
    validateComponent "consumer_id" consumerId = .ok () ∧
      path = layout.consumersDir.join (consumerId ++ consumerCursorSuffix) := by
  unfold MmapTransportLayout.consumerCursorPath at accepted
  cases valid : validateComponent "consumer_id" consumerId with
  | error failure =>
      rw [valid] at accepted
      cases accepted
  | ok _valid =>
      rw [valid] at accepted
      cases accepted
      exact ⟨rfl, rfl⟩

/-! ### The first dot -/

theorem dotted_inj {first second : String} {suffix other : List Char}
    (plain : '.' ∉ first.toList) (plainToo : '.' ∉ second.toList)
    (same : first ++ String.ofList ('.' :: suffix) = second ++ String.ofList ('.' :: other)) :
    first = second ∧ suffix = other := by
  have letters := congrArg String.toList same
  simp only [String.toList_append, String.toList_ofList] at letters
  have stops : ∀ (name : String) (rest : List Char), '.' ∉ name.toList →
      (name.toList ++ '.' :: rest).takeWhile (· ≠ '.') = name.toList := by
    intro name rest none
    rw [List.takeWhile_append_of_pos]
    · simp
    · intro character member
      simp only [ne_eq, decide_not, Bool.not_eq_eq_eq_not, Bool.not_true, decide_eq_false_iff_not]
      rintro rfl
      exact none member
  have names : first = second := by
    apply String.toList_injective
    rw [← stops first suffix plain, ← stops second other plainToo, letters]
  subst names
  have rests := List.append_cancel_left letters
  injection rests with _dots rests
  exact ⟨rfl, rests⟩

def FileRole.suffix : FileRole → List Char
  | .ring => "ring".toList
  | .producerCursor => "producer.cursor".toList
  | .readinessCursor => "ready.cursor".toList
  | .consumerCursor _ => "consumers".toList

/-- What of the path of a role is below the directory or the file of the segment. -/
def FileRole.below : FileRole → List String
  | .consumerCursor consumerId => [consumerId ++ consumerCursorSuffix]
  | _ => []

theorem path_components {rootDir : Path} {segmentName : String} {layout : MmapTransportLayout}
    {role : FileRole} {path : Path}
    (accepted : MmapTransportLayout.new rootDir segmentName = .ok layout)
    (placed : layout.path role = .ok path) :
    path.components =
      rootDir.components ++ (segmentName ++ String.ofList ('.' :: role.suffix)) :: role.below := by
  obtain ⟨_valid, ring, producer, readiness, consumers⟩ := new_ok accepted
  cases role with
  | ring =>
      cases placed
      rw [ring]
      rfl
  | producerCursor =>
      cases placed
      rw [producer]
      rfl
  | readinessCursor =>
      cases placed
      rw [readiness]
      rfl
  | consumerCursor consumerId =>
      obtain ⟨_valid, rfl⟩ := consumerCursorPath_ok placed
      rw [consumers]
      simp only [Path.join, List.append_assoc]
      rfl

theorem role_eq {role other : FileRole} {layout second : MmapTransportLayout} {path further : Path}
    (placed : layout.path role = .ok path) (placedToo : second.path other = .ok further)
    (suffixes : role.suffix = other.suffix) (rests : role.below = other.below) : role = other := by
  have ids : ∀ {layout : MmapTransportLayout} {consumerId : String} {path : Path},
      layout.path (.consumerCursor consumerId) = .ok path → '.' ∉ consumerId.toList := by
    intro layout consumerId path placed
    exact (component_of_ok (consumerCursorPath_ok placed).1).noDot
  cases role with
  | ring => cases other <;> first | rfl | cases suffixes
  | producerCursor => cases other <;> first | rfl | cases suffixes
  | readinessCursor => cases other <;> first | rfl | cases suffixes
  | consumerCursor consumerId =>
      cases other with
      | ring => cases suffixes
      | producerCursor => cases suffixes
      | readinessCursor => cases suffixes
      | consumerCursor otherId =>
          injection rests with names _nothing
          rw [(dotted_inj (ids placed) (ids placedToo) names).1]

theorem path_inj {rootDir : Path} {segmentName otherName : String}
    {layout other : MmapTransportLayout} {role otherRole : FileRole} {path : Path}
    (accepted : MmapTransportLayout.new rootDir segmentName = .ok layout)
    (acceptedToo : MmapTransportLayout.new rootDir otherName = .ok other)
    (placed : layout.path role = .ok path) (placedToo : other.path otherRole = .ok path) :
    segmentName = otherName ∧ role = otherRole := by
  have components := path_components accepted placed
  rw [path_components acceptedToo placedToo] at components
  have names := List.append_cancel_left components
  injection names with firsts rests
  obtain ⟨sameName, suffixes⟩ := dotted_inj (new_ok acceptedToo).1.noDot
    (new_ok accepted).1.noDot firsts
  exact ⟨sameName.symm, role_eq placed placedToo suffixes.symm rests.symm⟩

/-! ### The last dot -/

theorem rsplitFileAtDot_cursor {name : String} (component : Component name) :
    Path.rsplitFileAtDot (name ++ consumerCursorSuffix) = (some name, some "cursor") := by
  have letters : (name ++ consumerCursorSuffix).toList.reverse =
      "rosruc".toList ++ '.' :: name.toList.reverse := by
    simp [consumerCursorSuffix]
  have notParent : name ++ consumerCursorSuffix ≠ ".." := by
    intro same
    have reversed := congrArg (fun text : String => text.toList.reverse) same
    simp only [letters] at reversed
    cases reversed
  have after : ("rosruc".toList ++ '.' :: name.toList.reverse).takeWhile (· ≠ '.') =
      "rosruc".toList := by
    simp
  have before : ("rosruc".toList ++ '.' :: name.toList.reverse).dropWhile (· ≠ '.') =
      '.' :: name.toList.reverse := by
    simp
  unfold Path.rsplitFileAtDot
  rw [if_neg notParent]
  simp only [letters, after, before]
  cases reversed : name.toList.reverse with
  | nil => exact absurd (List.reverse_eq_nil_iff.mp reversed) component.nonempty
  | cons first rest =>
      have whole : String.ofList (first :: rest).reverse = name := by
        rw [← reversed]
        simp
      simp only [whole]
      rfl

/-- The id of a consumer is read off the path of its cursor. -/
theorem consumerIdOf_path {layout : MmapTransportLayout} {consumerId : String} {path : Path}
    (placed : layout.consumerCursorPath consumerId = .ok path) :
    MmapTransportLayout.consumerIdOf path = some consumerId := by
  obtain ⟨valid, rfl⟩ := consumerCursorPath_ok placed
  have named : (layout.consumersDir.join (consumerId ++ consumerCursorSuffix)).fileName =
      some (consumerId ++ consumerCursorSuffix) := by
    simp [Path.fileName, Path.join]
  unfold MmapTransportLayout.consumerIdOf Path.extension Path.fileStem
  rw [named]
  simp [rsplitFileAtDot_cursor (component_of_ok valid)]

end Naming
