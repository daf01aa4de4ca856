/-
The names of the rings of a session.

A name is made of a prefix, a tag of the session and what the ring is for. None of it
holds an underscore, so what stands before the first one in the name of an object is the
name of its ring.
-/

import Mathlib.Data.List.GetD
import Mathlib.Data.List.Nodup
import Myelon.Layout.Header
import Myelon.Naming.ObjectName

namespace Naming

open Layout (bind_ok_iff)

structure TransportError where
  message : String
  deriving DecidableEq

abbrev TransportResult (α : Type) := Except TransportError α

def segmentNameLimitMacos : Nat := 14

def darwinSharedMemoryObjectLimit : Nat := 31

def producerSequenceSuffix : String := "_producer_seq"

structure MyelonTransportLayout where
  transportPrefix : String
  sessionTag : String
  rpcRingName : String
  responseRingNames : List String
  rpcDepth : Nat
  responseDepth : Nat

/-- The rings of a layout: the one to the runners, and one from each of them. -/
def MyelonTransportLayout.ringNames (layout : MyelonTransportLayout) : List String :=
  layout.rpcRingName :: layout.responseRingNames

def coordinationCursorName (baseName : String) : String := baseName ++ "_cr"

def hexadecimal (width value : Nat) : List Char :=
  List.replicate (width - (Nat.toDigits 16 value).length) '0' ++ Nat.toDigits 16 value

/-- The letters and digits of a label, of which all are one byte long. -/
def labelLetters (sessionLabel : String) : List Char :=
  (sessionLabel.toList.filter Char.isAlphanum).map Char.toLower

/-- The end of the label, or where that is too short what a hasher makes of it. -/
def compactSessionTag (hasher : String → UInt64) (sessionLabel : String) : String :=
  let filtered := labelLetters sessionLabel
  if filtered.length ≥ 8 then String.ofList (filtered.drop (filtered.length - 8))
  else String.ofList (hexadecimal 8 (hasher sessionLabel).toUInt32.toNat)

def validateSegmentName (name : String) : TransportResult Unit :=
  if name.isEmpty then .error ⟨"segment name must not be empty"⟩
  else if name.utf8ByteSize > segmentNameLimitMacos then
    .error ⟨"segment name '" ++ name ++ "' exceeds conservative macOS limit " ++
      toString segmentNameLimitMacos⟩
  else if name.toList.all Char.isAlphanum = false then
    .error ⟨"segment name '" ++ name ++ "' must be ASCII alphanumeric only"⟩
  else if (coordinationCursorName name).utf8ByteSize > darwinSharedMemoryObjectLimit ∨
      (name ++ producerSequenceSuffix).utf8ByteSize > darwinSharedMemoryObjectLimit then
    .error ⟨"segment name '" ++ name ++
      "' does not leave enough room for derived shared-memory suffixes on macOS"⟩
  else .ok ()

def responseRingName (base : String) (rank : Nat) : String :=
  base ++ "r" ++ String.ofList (Nat.toDigits 16 rank)

/-- The names of the response rings, unless one of them is not valid. -/
def responseRings (base : String) (ranks : List Nat) : TransportResult (List String) :=
  ranks.mapM fun rank => do
    validateSegmentName (responseRingName base rank)
    return responseRingName base rank

def MyelonTransportLayout.forSessionWithPrefix (hasher : String → UInt64)
    (transportPrefix sessionLabel : String) (runnerCount rpcDepth responseDepth : Nat) :
    TransportResult MyelonTransportLayout :=
  if transportPrefix.isEmpty then .error ⟨"transport_prefix must not be empty"⟩
  else if transportPrefix.toList.all Char.isAlphanum = false then
    .error ⟨"transport_prefix '" ++ transportPrefix ++ "' must be ASCII alphanumeric only"⟩
  else if runnerCount = 0 then .error ⟨"runner_count must be greater than zero"⟩
  else if rpcDepth = 0 then .error ⟨"rpc_depth must be greater than zero"⟩
  else if responseDepth = 0 then .error ⟨"response_depth must be greater than zero"⟩
  else do
    let sessionTag := compactSessionTag hasher sessionLabel
    let rpcRingName := transportPrefix ++ sessionTag ++ "p"
    validateSegmentName rpcRingName
    let responseRingNames ←
      responseRings (transportPrefix ++ sessionTag) (List.range runnerCount)
    return { transportPrefix, sessionTag, rpcRingName, responseRingNames, rpcDepth,
             responseDepth }

/-! ### Digits -/

theorem digitChar_inj {first second : Nat} (fits : first < 16) (fitsToo : second < 16)
    (same : first.digitChar = second.digitChar) : first = second := by
  have all : ∀ left right : Fin 16, left.val.digitChar = right.val.digitChar → left = right := by
    decide
  have equal := all ⟨first, fits⟩ ⟨second, fitsToo⟩ same
  injection equal

def leadingDigits (value : Nat) : List Char :=
  if value < 16 then [] else Nat.toDigits 16 (value / 16)

theorem toDigits_split (value : Nat) :
    Nat.toDigits 16 value = leadingDigits value ++ [(value % 16).digitChar] := by
  unfold leadingDigits
  by_cases small : value < 16
  · rw [if_pos small, Nat.toDigits_of_lt_base small, Nat.mod_eq_of_lt small]
    rfl
  · rw [if_neg small]
    exact Nat.toDigits_of_base_le (by decide) (Nat.le_of_not_lt small)

theorem toDigits_inj {first second : Nat} (same : Nat.toDigits 16 first = Nat.toDigits 16 second) :
    first = second := by
  induction first using Nat.strongRecOn generalizing second with
  | ind first ih =>
      rw [toDigits_split first, toDigits_split second] at same
      have parts := List.append_inj' same rfl
      have last : first % 16 = second % 16 := by
        apply digitChar_inj (Nat.mod_lt first (by decide)) (Nat.mod_lt second (by decide))
        injection parts.2
      have leading := parts.1
      unfold leadingDigits at leading
      by_cases small : first < 16
      · rw [if_pos small] at leading
        by_cases smallToo : second < 16
        · omega
        · rw [if_neg smallToo] at leading
          exact absurd leading.symm Nat.toDigits_ne_nil
      · rw [if_neg small] at leading
        by_cases smallToo : second < 16
        · rw [if_pos smallToo] at leading
          exact absurd leading Nat.toDigits_ne_nil
        · rw [if_neg smallToo] at leading
          have quotients := ih (first / 16) (by omega) leading
          omega

/-! ### Accepted layouts -/

structure ValidName (name : String) : Prop where
  length : name.utf8ByteSize ≤ 14
  letters : ∀ character ∈ name.toList, character.isAlphanum = true

theorem validName_of_ok {name : String} (accepted : validateSegmentName name = .ok ()) :
    ValidName name := by
  unfold validateSegmentName at accepted
  split at accepted
  · cases accepted
  · split at accepted
    · cases accepted
    · rename_i short
      split at accepted
      · cases accepted
      · rename_i letters
        constructor
        · exact Nat.le_of_not_lt short
        · rw [Bool.not_eq_false] at letters
          exact List.all_eq_true.mp letters

theorem ValidName.noUnderscore {name : String} (valid : ValidName name) : '_' ∉ name.toList := by
  intro member
  have letter := valid.letters '_' member
  cases letter

theorem responseRings_ok {base : String} {ranks : List Nat} {names : List String}
    (accepted : responseRings base ranks = .ok names) :
    names = ranks.map (responseRingName base) ∧ ∀ name ∈ names, ValidName name := by
  unfold responseRings at accepted
  induction ranks generalizing names with
  | nil =>
      cases accepted
      simp
  | cons rank rest ih =>
      rw [List.mapM_cons] at accepted
      obtain ⟨name, named, accepted⟩ := bind_ok_iff.mp accepted
      obtain ⟨_unit, valid, same⟩ := bind_ok_iff.mp named
      cases same
      obtain ⟨others, later, accepted⟩ := bind_ok_iff.mp accepted
      cases accepted
      obtain ⟨rfl, valids⟩ := ih later
      constructor
      · rfl
      · intro name member
        rcases List.mem_cons.mp member with rfl | inRest
        · exact validName_of_ok valid
        · exact valids name inRest

theorem responseRingName_inj {base : String} {first second : Nat}
    (same : responseRingName base first = responseRingName base second) : first = second := by
  have letters := congrArg String.toList same
  simp only [responseRingName, String.toList_append, String.toList_ofList] at letters
  exact toDigits_inj (List.append_cancel_left letters)

theorem rpcRingName_ne (base : String) (rank : Nat) : base ++ "p" ≠ responseRingName base rank := by
  intro same
  have letters := congrArg String.toList same
  simp only [responseRingName, String.toList_append, List.append_assoc] at letters
  have rest := List.append_cancel_left letters
  simp at rest

theorem forSession_ok {hasher : String → UInt64} {transportPrefix sessionLabel : String}
    {runnerCount rpcDepth responseDepth : Nat} {layout : MyelonTransportLayout}
    (accepted : MyelonTransportLayout.forSessionWithPrefix hasher transportPrefix sessionLabel
      runnerCount rpcDepth responseDepth = .ok layout) :
    ∃ base, layout.ringNames =
        (base ++ "p") :: (List.range runnerCount).map (responseRingName base) ∧
      ∀ name ∈ layout.ringNames, ValidName name := by
  unfold MyelonTransportLayout.forSessionWithPrefix at accepted
  iterate 5
    split at accepted
    · cases accepted
  obtain ⟨_unit, valid, accepted⟩ := bind_ok_iff.mp accepted
  obtain ⟨names, rings, accepted⟩ := bind_ok_iff.mp accepted
  cases accepted
  obtain ⟨listed, valids⟩ := responseRings_ok rings
  refine ⟨transportPrefix ++ compactSessionTag hasher sessionLabel, ?_, ?_⟩
  · unfold MyelonTransportLayout.ringNames
    rw [listed]
  · intro name member
    rcases List.mem_cons.mp member with rfl | response
    · exact validName_of_ok valid
    · exact valids name response

/-- Names without an underscore show in the names of the objects. -/
theorem objectName_ring {first second : String} {role other : Role}
    (plain : '_' ∉ first.toList) (plainToo : '_' ∉ second.toList)
    (same : objectName first role = objectName second other) : first = second := by
  have stops : ∀ (name : String) (role : Role), '_' ∉ name.toList →
      (objectName name role).toList.takeWhile (· ≠ '_') = name.toList := by
    intro name role none
    rw [objectName_toList, List.takeWhile_append_of_pos]
    · cases role <;> simp [Role.suffix]
    · intro character member
      simp only [ne_eq, decide_not, Bool.not_eq_eq_eq_not, Bool.not_true, decide_eq_false_iff_not]
      rintro rfl
      exact none member
  apply String.toList_injective
  rw [← stops first role plain, ← stops second other plainToo, same]

/-- The rings of an accepted layout have valid names, no two of them the same, and no two of
their objects share one. -/
theorem layout_names_apart {hasher : String → UInt64} {transportPrefix sessionLabel : String}
    {runnerCount rpcDepth responseDepth : Nat} {layout : MyelonTransportLayout}
    (accepted : MyelonTransportLayout.forSessionWithPrefix hasher transportPrefix sessionLabel
      runnerCount rpcDepth responseDepth = .ok layout) :
    layout.ringNames.Nodup ∧
    (∀ name ∈ layout.ringNames, name.utf8ByteSize ≤ 14 ∧
      ∀ character ∈ name.toList, character.isAlphanum = true) ∧
    ∀ first ∈ layout.ringNames, ∀ second ∈ layout.ringNames, first ≠ second →
      ∀ role other, objectName first role ≠ objectName second other := by
  obtain ⟨base, names, valids⟩ := forSession_ok accepted
  refine ⟨?_, ?_, ?_⟩
  · rw [names, List.nodup_cons]
    constructor
    · intro member
      obtain ⟨rank, _inside, same⟩ := List.mem_map.mp member
      exact rpcRingName_ne base rank same.symm
    · exact List.Nodup.map (fun _ _ same => responseRingName_inj same) List.nodup_range
  · intro name member
    exact ⟨(valids name member).length, (valids name member).letters⟩
  · intro first member second memberToo different role other same
    exact different (objectName_ring (valids first member).noUnderscore
      (valids second memberToo).noUnderscore same)

def twoRunners : MyelonTransportLayout :=
  { transportPrefix := "vmy"
    sessionTag := "sion0001"
    rpcRingName := "vmysion0001p"
    responseRingNames := ["vmysion0001r0", "vmysion0001r1"]
    rpcDepth := 16
    responseDepth := 8 }

theorem layout_names_apart_two : twoRunners.ringNames.Nodup := by
  have accepted :
      MyelonTransportLayout.forSessionWithPrefix (fun _ => 0) "vmy" "Session-0001" 2 16 8 =
        .ok twoRunners := by
    rfl
  exact (layout_names_apart accepted).1

end Naming
