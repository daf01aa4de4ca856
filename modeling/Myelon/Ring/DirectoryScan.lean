/-
A pass over the files of a transport.

The barrier of the mapped files reads the ids of the consumers off the names of the files
in their directory. What it finds are the consumers whose cursors are there.
-/

import Myelon.Interleaving.Sequential
import Myelon.Naming.MmapLayout
import Myelon.Ring.Barrier

namespace Ring

open Interleaving
open Naming (MmapTransportLayout Path validateComponent)

variable {interface : Interface}

def DirectoryEntry.ofPath (path : Path) : DirectoryEntry :=
  match MmapTransportLayout.consumerIdOf path with
  | none => .foreign
  | some consumerId =>
      .cursorFile consumerId (validateComponent "consumer_id" consumerId).isOk

/-- The order in which a directory yields its files is not determined. -/
def Action.isListed (files : List Path) : Action interface → Oracle interface → Bool
  | .readDirectory, .directory (some entries) => entries.isPerm (files.map DirectoryEntry.ofPath)
  | .readDirectory, _ => false
  | _, _ => true

def overFiles (interface : Interface) (files : List Path) :
    Machine (signature interface) Self Unit (World interface) :=
  { Oracle := Oracle interface
    perform := fun action oracle world =>
      if action.isListed files oracle = true then perform .mayFail action oracle world else none
    restart := fun _ _ => none }

variable {files : List Path} {known : List ConsumerId}

structure Scanning (known : List ConsumerId) (entries : List DirectoryEntry)
    (producer : Producer) (world : World interface) : Prop where
  cursors : producer.consumerBarrier.consumerCursors = known
  present : ∀ entry ∈ entries, ∃ consumerId ∈ world.consumers, entry = .cursorFile consumerId true

structure Added (known : List ConsumerId) (entries : List DirectoryEntry)
    (cursors : List ConsumerId) (count : Nat) : Prop where
  exactly : ∀ consumerId, consumerId ∈ cursors ↔
    consumerId ∈ known ∨ .cursorFile consumerId true ∈ entries
  counted : cursors.length = known.length + count
  nodup : known.Nodup → cursors.Nodup

theorem Added.nothing : Added known [] known 0 :=
  ⟨fun consumerId => by simp, rfl, id⟩

theorem Added.already {consumerId : ConsumerId} {rest : List DirectoryEntry}
    {cursors : List ConsumerId} {count : Nat} (member : consumerId ∈ known)
    (added : Added known rest cursors count) :
    Added known (.cursorFile consumerId true :: rest) cursors count := by
  constructor
  · intro other
    rw [added.exactly other, List.mem_cons]
    constructor
    · rintro (before | later)
      · exact .inl before
      · exact .inr (.inr later)
    · rintro (before | same | later)
      · exact .inl before
      · cases same
        exact .inl member
      · exact .inr later
  · exact added.counted
  · exact added.nodup

theorem Added.further {consumerId : ConsumerId} {rest : List DirectoryEntry}
    {cursors : List ConsumerId} {count : Nat} (unknown : consumerId ∉ known)
    (added : Added (consumerId :: known) rest cursors count) :
    Added known (.cursorFile consumerId true :: rest) cursors (count + 1) := by
  constructor
  · intro other
    rw [added.exactly other, List.mem_cons, List.mem_cons]
    constructor
    · rintro ((rfl | before) | later)
      · exact .inr (.inl rfl)
      · exact .inl before
      · exact .inr (.inr later)
    · rintro (before | same | later)
      · exact .inl (.inr before)
      · cases same
        exact .inl (.inl rfl)
      · exact .inr later
  · rw [added.counted, List.length_cons]
    omega
  · exact fun distinct => added.nodup (List.nodup_cons.mpr ⟨unknown, distinct⟩)

theorem current_scanning {entries : List DirectoryEntry} :
    (overFiles interface files).Settles (Scanning known entries) ConsumerBarrier.current
      (fun barrier producer world =>
        barrier.consumerCursors = known ∧ Scanning known entries producer world) := by
  apply Machine.Settles.bind Machine.Settles.get
  intro producer
  apply Machine.Settles.pure
  rintro self world ⟨rfl, scanning⟩
  exact ⟨scanning.cursors, scanning⟩

theorem attach_scanning {consumerId : ConsumerId} {rest : List DirectoryEntry} :
    (overFiles interface files).Settles (Scanning known (.cursorFile consumerId true :: rest))
      (act (.attachConsumerSequence consumerId))
      (fun (attached : Bool) producer world => attached = true ∧
        Scanning known rest producer world) := by
  have there : ∀ (producer : Producer) (world : World interface),
      Scanning known (.cursorFile consumerId true :: rest) producer world →
        consumerId ∈ world.consumers := by
    intro producer world scanning
    obtain ⟨other, attached, same⟩ := scanning.present _ List.mem_cons_self
    cases same
    exact attached
  apply Machine.Settles.perform
  · intro producer world scanning
    exact ⟨.silent, _, _, if_pos (there producer world scanning)⟩
  · intro producer world oracle result after scanning performed
    simp only [overFiles, Action.isListed, if_true, perform,
      if_pos (there producer world scanning)] at performed
    cases performed
    exact ⟨rfl, scanning.cursors,
      fun entry member => scanning.present entry (List.mem_cons_of_mem _ member)⟩

theorem insert_scanning {consumerId : ConsumerId} {entries : List DirectoryEntry} :
    (overFiles interface files).Settles (Scanning known entries)
      (ConsumerBarrier.update (·.insert consumerId))
      (fun _ => Scanning (consumerId :: known) entries) := by
  apply Machine.Settles.modifyGet
  intro producer world scanning
  constructor
  · change consumerId :: producer.consumerBarrier.consumerCursors = _
    rw [scanning.cursors]
  · exact scanning.present

theorem discoverEntries_adds (entries : List DirectoryEntry) (known : List ConsumerId)
    (discovered : Nat) :
    (overFiles interface files).Settles (Scanning known entries)
      (MmapConsumerBarrier.discoverEntries entries discovered)
      (fun result producer _ => ∃ count, result = some (discovered + count) ∧
        Added known entries producer.consumerBarrier.consumerCursors count) := by
  induction entries generalizing known discovered with
  | nil =>
      apply Machine.Settles.pure
      intro producer world scanning
      refine ⟨0, rfl, ?_⟩
      rw [scanning.cursors]
      exact Added.nothing
  | cons entry rest ih =>
      apply Machine.Settles.given (∃ consumerId, entry = .cursorFile consumerId true)
      · intro producer world scanning
        obtain ⟨consumerId, _attached, same⟩ := scanning.present entry List.mem_cons_self
        exact ⟨consumerId, same⟩
      · rintro ⟨consumerId, rfl⟩
        apply Machine.Settles.bind current_scanning
        intro barrier
        apply Machine.Settles.given (barrier.consumerCursors = known) (fun _ _ held => held.1)
        intro cursors
        rw [cursors]
        by_cases member : consumerId ∈ known
        · rw [if_pos member]
          apply (ih known discovered).conseq
          · rintro producer world ⟨_same, scanning⟩
            exact ⟨scanning.cursors, fun entry inRest =>
              scanning.present entry (List.mem_cons_of_mem _ inRest)⟩
          · rintro result producer world ⟨count, counted, added⟩
            exact ⟨count, counted, added.already member⟩
        · rw [if_neg member, if_pos rfl]
          apply Machine.Settles.bind (attach_scanning.strengthen (fun _ _ held => held.2))
          intro attached
          apply Machine.Settles.given (attached = true) (fun _ _ held => held.1)
          rintro rfl
          rw [if_pos rfl]
          apply Machine.Settles.bind (insert_scanning.strengthen (fun _ _ held => held.2))
          intro _
          apply (ih (consumerId :: known) (discovered + 1)).conseq (fun _ _ held => held)
          rintro result producer world ⟨count, counted, added⟩
          exact ⟨count + 1, by rw [counted, Nat.add_right_comm, Nat.add_assoc],
            added.further member⟩

/-! ### The files of a layout -/

variable {layout : MmapTransportLayout} {consumerIds : List ConsumerId}

theorem ofPath_cursor {consumerId : ConsumerId} {path : Path}
    (placed : layout.consumerCursorPath consumerId = .ok path) :
    DirectoryEntry.ofPath path = .cursorFile consumerId true := by
  unfold DirectoryEntry.ofPath
  rw [Naming.consumerIdOf_path placed]
  simp only [(Naming.consumerCursorPath_ok placed).1, Except.isOk, Except.toBool]

theorem entries_eq (placed : consumerIds.mapM layout.consumerCursorPath = .ok files) :
    files.map DirectoryEntry.ofPath = consumerIds.map (.cursorFile · true) := by
  induction consumerIds generalizing files with
  | nil =>
      cases placed
      rfl
  | cons consumerId rest ih =>
      rw [List.mapM_cons] at placed
      obtain ⟨path, first, placed⟩ := Layout.bind_ok_iff.mp placed
      obtain ⟨others, later, placed⟩ := Layout.bind_ok_iff.mp placed
      cases placed
      rw [List.map_cons, List.map_cons, ofPath_cursor first, ih later]

theorem discoverConsumers_adds (placed : consumerIds.mapM layout.consumerCursorPath = .ok files)
    (known : List ConsumerId) :
    (overFiles interface files).Settles
      (fun producer world => producer.consumerBarrier.consumerCursors = known ∧
        ∀ consumerId, consumerId ∈ world.consumers ↔ consumerId ∈ consumerIds)
      MmapConsumerBarrier.discoverConsumers
      (fun result producer _ => ∃ count, result = some count ∧
        producer.consumerBarrier.consumerCursors.length = known.length + count ∧
        (known.Nodup → producer.consumerBarrier.consumerCursors.Nodup) ∧
        ∀ consumerId, consumerId ∈ producer.consumerBarrier.consumerCursors ↔
          consumerId ∈ known ∨ consumerId ∈ consumerIds) := by
  have listed : (overFiles interface files).Settles
      (fun producer world => producer.consumerBarrier.consumerCursors = known ∧
        ∀ consumerId, consumerId ∈ world.consumers ↔ consumerId ∈ consumerIds)
      (act .readDirectory)
      (fun (readDir : Option (List DirectoryEntry)) producer world => ∃ entries,
        readDir = some entries ∧ entries.Perm (consumerIds.map (.cursorFile · true)) ∧
          Scanning known entries producer world) := by
    apply Machine.Settles.perform
    · intro producer world _held
      exact ⟨.directory (some (files.map DirectoryEntry.ofPath)), _, _,
        if_pos (List.isPerm_iff.mpr (List.Perm.refl _))⟩
    · intro producer world oracle result after held performed
      obtain ⟨cursors, attached⟩ := held
      simp only [overFiles] at performed
      split at performed
      · rename_i listed
        unfold Action.isListed at listed
        cases oracle with
        | directory entries =>
            cases entries with
            | none => cases listed
            | some entries =>
                cases performed
                have same : entries.Perm (consumerIds.map (.cursorFile · true)) := by
                  rw [← entries_eq placed]
                  exact List.isPerm_iff.mp listed
                refine ⟨entries, rfl, same, cursors, ?_⟩
                intro entry member
                obtain ⟨consumerId, wanted, rfl⟩ := List.mem_map.mp (same.mem_iff.mp member)
                exact ⟨consumerId, (attached consumerId).mpr wanted, rfl⟩
        | _ => cases listed
      · cases performed
  apply Machine.Settles.bind listed
  intro readDir
  apply Machine.Settles.given (∃ entries, readDir = some entries ∧
    entries.Perm (consumerIds.map (.cursorFile · true)))
  · rintro producer world ⟨entries, same, permuted, _scanning⟩
    exact ⟨entries, same, permuted⟩
  · rintro ⟨entries, rfl, permuted⟩
    apply (discoverEntries_adds entries known 0).conseq
    · rintro producer world ⟨others, same, _permuted, scanning⟩
      cases same
      exact scanning
    · rintro result producer world ⟨count, counted, added⟩
      refine ⟨count, by rw [counted, Nat.zero_add], added.counted, added.nodup, ?_⟩
      intro consumerId
      rw [added.exactly consumerId, permuted.mem_iff, List.mem_map]
      constructor
      · rintro (before | ⟨other, wanted, same⟩)
        · exact .inl before
        · cases same
          exact .inr wanted
      · rintro (before | wanted)
        · exact .inl before
        · exact .inr ⟨consumerId, wanted, rfl⟩

/-- The files of layouts under one root are told apart by their paths, the id of a consumer is
read off the path of its cursor, and a pass over the cursors of some consumers adds those. -/
theorem layout_paths_inverted {rootDir : Path} {segmentName : String}
    {layout : MmapTransportLayout}
    (accepted : MmapTransportLayout.new rootDir segmentName = .ok layout) :
    (∀ otherName other role otherRole path,
      MmapTransportLayout.new rootDir otherName = .ok other →
      layout.path role = .ok path → other.path otherRole = .ok path →
        segmentName = otherName ∧ role = otherRole) ∧
    (∀ consumerId path, layout.consumerCursorPath consumerId = .ok path →
      MmapTransportLayout.consumerIdOf path = some consumerId) ∧
    ∀ (consumerIds : List ConsumerId) files,
      consumerIds.mapM layout.consumerCursorPath = .ok files →
      ∀ known, (overFiles interface files).Settles
        (fun producer world => producer.consumerBarrier.consumerCursors = known ∧
          ∀ consumerId, consumerId ∈ world.consumers ↔ consumerId ∈ consumerIds)
        MmapConsumerBarrier.discoverConsumers
        (fun result producer _ => ∃ count, result = some count ∧
          producer.consumerBarrier.consumerCursors.length = known.length + count ∧
          (known.Nodup → producer.consumerBarrier.consumerCursors.Nodup) ∧
          ∀ consumerId, consumerId ∈ producer.consumerBarrier.consumerCursors ↔
            consumerId ∈ known ∨ consumerId ∈ consumerIds) := by
  refine ⟨?_, ?_, ?_⟩
  · intro otherName other role otherRole path acceptedToo placed placedToo
    exact Naming.path_inj accepted acceptedToo placed placedToo
  · intro consumerId path placed
    exact Naming.consumerIdOf_path placed
  · intro consumerIds files placed known
    exact discoverConsumers_adds placed known

def queueLayout (segmentName : String) : MmapTransportLayout :=
  { rootDir := ⟨["/", "tmp"]⟩
    segmentName
    ringPath := ⟨["/", "tmp", segmentName ++ ".ring"]⟩
    producerCursorPath := ⟨["/", "tmp", segmentName ++ ".producer.cursor"]⟩
    readinessCursorPath := ⟨["/", "tmp", segmentName ++ ".ready.cursor"]⟩
    consumersDir := ⟨["/", "tmp", segmentName ++ ".consumers"]⟩ }

def queueCursors : List Path :=
  [⟨["/", "tmp", "queue01.consumers", "c0001.cursor"]⟩,
    ⟨["/", "tmp", "queue01.consumers", "c0002.cursor"]⟩]

/-- Two queues share no file, and a new barrier finds the two consumers of one of them. -/
theorem layout_paths_inverted_queue :
    (∀ role otherRole path, (queueLayout "queue01").path role = .ok path →
      (queueLayout "queue02").path otherRole ≠ .ok path) ∧
    queueCursors.map MmapTransportLayout.consumerIdOf = [some "c0001", some "c0002"] ∧
    (overFiles ⟨Unit, Unit, Unit, Unit, Unit⟩ queueCursors).Settles
      (fun producer world => producer.consumerBarrier.consumerCursors = [] ∧
        ∀ consumerId, consumerId ∈ world.consumers ↔ consumerId ∈ ["c0001", "c0002"])
      MmapConsumerBarrier.discoverConsumers
      (fun result producer _ => result = some 2 ∧
        ∀ consumerId, consumerId ∈ producer.consumerBarrier.consumerCursors ↔
          consumerId ∈ ["c0001", "c0002"]) := by
  have accepted : MmapTransportLayout.new ⟨["/", "tmp"]⟩ "queue01" =
      .ok (queueLayout "queue01") := by
    rfl
  have acceptedToo : MmapTransportLayout.new ⟨["/", "tmp"]⟩ "queue02" =
      .ok (queueLayout "queue02") := by
    rfl
  have placed : ["c0001", "c0002"].mapM (queueLayout "queue01").consumerCursorPath =
      .ok queueCursors := by
    rfl
  obtain ⟨apart, inverted, scanned⟩ :=
    @layout_paths_inverted ⟨Unit, Unit, Unit, Unit, Unit⟩ _ _ _ accepted
  refine ⟨?_, ?_, ?_⟩
  · intro role otherRole path here there
    exact absurd (apart _ _ role otherRole path acceptedToo here there).1 (by decide)
  · have first := inverted "c0001" ⟨["/", "tmp", "queue01.consumers", "c0001.cursor"]⟩ rfl
    have second := inverted "c0002" ⟨["/", "tmp", "queue01.consumers", "c0002.cursor"]⟩ rfl
    rw [queueCursors, List.map_cons, List.map_cons, first, second]
    rfl
  · apply (scanned ["c0001", "c0002"] queueCursors placed []).conseq (fun _ _ held => held)
    rintro result producer _ ⟨count, rfl, length, distinct, found⟩
    have members (consumerId : ConsumerId) :
        consumerId ∈ producer.consumerBarrier.consumerCursors ↔
          consumerId ∈ ["c0001", "c0002"] := by
      rw [found consumerId]
      simp only [List.not_mem_nil, false_or]
    have same : producer.consumerBarrier.consumerCursors.Perm ["c0001", "c0002"] :=
      (List.perm_ext_iff_of_nodup (distinct List.nodup_nil) (by decide)).mpr members
    have two : count = 2 := by
      rw [same.length_eq, List.length_nil, Nat.zero_add] at length
      exact length.symm
    exact ⟨congrArg some two, members⟩

end Ring
