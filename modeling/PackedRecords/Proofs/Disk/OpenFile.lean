import PackedRecords.Disk.OpenFile
import PackedRecords.Proofs.Bytes
import PackedRecords.Proofs.Device.Faithful
import PackedRecords.Proofs.Disk.Files
import PackedRecords.Proofs.Store.Confinement

/-! # Open files hold bytes

An open file that knows the size of its file does to the file's bytes what memory does
to its own. It refuses nothing but to grow past what the system can count, and then, as
after every failure, it is left as it was.
-/

namespace PackedRecords

namespace OpenFile

/-- The bytes of the file. -/
def bytes (file : OpenFile) : ByteArray :=
  file.contents.toByteArray

/-- The file exists, its size is the one known, and its path still leads to it. -/
structure Sound (file : OpenFile) : Prop where
  exists_contents : file.handle.number < file.disk.files.size
  size_bytes : file.bytes.size = file.handle.size
  reached : Disk.openFile file.handle.path false file.disk = .ok file.handle.number file.disk

/-- Some of the file's bytes have been changed, and the size known with them. -/
def withBytes (file : OpenFile) (known : Nat) (update : SparseBytes → SparseBytes) : OpenFile :=
  ⟨file.disk.modify file.handle.number update, { file.handle with size := known }⟩

theorem bytes_withBytes {file : OpenFile} (sound : file.Sound) (known : Nat)
    (update : SparseBytes → SparseBytes) :
    (file.withBytes known update).bytes = (update file.contents).toByteArray :=
  congrArg SparseBytes.toByteArray (Disk.contents_modify sound.exists_contents update)

theorem Sound.withBytes {file : OpenFile} (sound : file.Sound) {known : Nat}
    {update : SparseBytes → SparseBytes}
    (size : (update file.contents).toByteArray.size = known) :
    (file.withBytes known update).Sound := by
  constructor
  · exact Nat.lt_of_lt_of_eq sound.exists_contents (Disk.size_files_modify ..).symm
  · rw [bytes_withBytes sound]
    exact size
  · exact Disk.openFile_of_nodes_eq sound.reached rfl

/-! ## Calls of an open file -/

theorem toByteArray_lay {file : OpenFile} {offset : Nat} (inside : offset ≤ file.bytes.size)
    (data : ByteArray) :
    (lay offset data file.contents).toByteArray = overwrite file.bytes offset data := by
  rw [bytes, SparseBytes.size_toByteArray] at inside
  rw [lay, if_neg (Nat.not_lt.mpr inside), SparseBytes.toByteArray_overwrite]
  rfl

/-- A call does to the file what the reference does to its bytes in memory. A failure
comes from the bytes, not from the system, and leaves the file as it was. -/
def Mirrors {α : Type} (file : OpenFile) (call : DeviceM OpenFile α)
    (reference : DeviceM Memory α) : Prop :=
  (∃ value after, call file = .ok value after ∧ after.Sound ∧
      reference ⟨file.bytes⟩ = .ok value ⟨after.bytes⟩) ∨
    ∃ failure, call file = .error failure file ∧ ¬failure.IsRefusal ∧
      reference ⟨file.bytes⟩ = .error failure ⟨file.bytes⟩

theorem Mirrors.bind_pure {α β : Type} {file : OpenFile} {call : DeviceM OpenFile α}
    {reference : DeviceM Memory α} (mirrors : file.Mirrors call reference) (wrap : α → β) :
    file.Mirrors (call >>= fun value => pure (wrap value))
      (reference >>= fun value => pure (wrap value)) := by
  rcases mirrors with ⟨value, after, ran, sound, referenceRan⟩ |
    ⟨failure, ran, served, referenceRan⟩
  · exact .inl ⟨wrap value, after, bind_of_ok ran, sound, bind_of_ok referenceRan⟩
  · exact .inr ⟨failure, bind_of_error ran, served, bind_of_error referenceRan⟩

/-- What mirrors memory is refused nothing. -/
theorem Mirrors.confinedFrom {α : Type} {file : OpenFile} {call : DeviceM OpenFile α}
    {reference : DeviceM Memory α} (mirrors : file.Mirrors call reference)
    (sound : file.Sound) :
    ConfinedFrom Sound (fun failure => ¬failure.IsRefusal) call file := by
  rw [ConfinedFrom]
  rcases mirrors with ⟨value, after, ran, afterSound, _⟩ | ⟨failure, ran, served, _⟩
  · rw [ran]
    exact afterSound
  · rw [ran]
    exact ⟨sound, served⟩

section Calls

variable {file : OpenFile} (sound : file.Sound)
include sound

theorem mirrors_read (offset length : Nat) :
    file.Mirrors (read offset length) (Memory.read offset length) := by
  by_cases inside : offset + length ≤ file.bytes.size
  · left
    have known : ¬file.handle.size < offset + length := by
      rw [← sound.size_bytes]
      exact Nat.not_lt.mpr inside
    refine ⟨file.bytes.extract offset (offset + length), file, ?_, sound, ?_⟩
    · rw [read, if_neg known]
      by_cases empty : length = 0
      · rw [if_pos empty, ByteArray.extract_eq_empty_iff.mpr (by omega)]
      · have held : offset + length ≤ file.contents.size := by
          rwa [← SparseBytes.size_toByteArray]
        rw [if_neg empty]
        simp only [if_pos held, SparseBytes.toByteArray_extract, bytes]
    · simp only [Memory.read, if_pos inside]
  · right
    have known : file.handle.size < offset + length := by
      rw [← sound.size_bytes]
      exact Nat.lt_of_not_le inside
    refine ⟨.readPastEnd offset length file.bytes.size, ?_, id, ?_⟩
    · rw [read, if_pos known, sound.size_bytes]
    · simp only [Memory.read, if_neg inside]

/-- A file that has all its bytes loses none of them to an early end. -/
theorem readAt_eq_read (offset length : Nat) :
    readAt offset length file = read offset length file := by
  rcases mirrors_read sound offset length with ⟨found, after, ran, _⟩ | ⟨failure, ran, served, _⟩
  · rw [readAt, ran]
  · rw [readAt, ran]
    cases failure with
    | io reason => exact absurd trivial served
    | _ => rfl

theorem mirrors_readAt (offset length : Nat) :
    file.Mirrors (readAt offset length) (Memory.read offset length) := by
  have mirrors := mirrors_read sound offset length
  rwa [Mirrors, ← readAt_eq_read sound] at mirrors

theorem mirrors_writeAt (offset : Nat) (data : ByteArray) :
    file.Mirrors (writeAt offset data) (Memory.writeAt offset data) := by
  by_cases inside : offset ≤ file.bytes.size
  · left
    have known : ¬file.handle.size < offset := by
      rw [← sound.size_bytes]
      exact Nat.not_lt.mpr inside
    by_cases empty : data.size = 0
    · have nothing : data = ByteArray.empty := ByteArray.size_eq_zero_iff.mp empty
      refine ⟨(), file, ?_, sound, ?_⟩
      · rw [writeAt, if_neg known, if_pos empty]
      · rw [Memory.writeAt, if_pos inside, nothing, overwrite_empty inside]
    · have laid := toByteArray_lay inside data
      refine ⟨(), file.withBytes (max file.handle.size (offset + data.size)) (lay offset data),
        ?_, sound.withBytes ?_, ?_⟩
      · rw [writeAt, if_neg known, if_neg empty]
        rfl
      · rw [laid, size_overwrite data inside, sound.size_bytes]
      · rw [Memory.writeAt, if_pos inside, bytes_withBytes sound, laid]
  · right
    have known : file.handle.size < offset := by
      rw [← sound.size_bytes]
      exact Nat.lt_of_not_le inside
    refine ⟨.writePastEnd offset file.bytes.size, ?_, id, ?_⟩
    · rw [writeAt, if_pos known, sound.size_bytes]
    · rw [Memory.writeAt, if_neg inside]

theorem mirrors_append (data : ByteArray) :
    file.Mirrors (append data) (Memory.append data) := by
  left
  by_cases empty : data.size = 0
  · have nothing : data = ByteArray.empty := ByteArray.size_eq_zero_iff.mp empty
    refine ⟨file.bytes.size, file, ?_, sound, ?_⟩
    · simp only [append, if_pos empty, sound.size_bytes]
    · simp only [Memory.append, nothing, overwrite_empty (Nat.le_refl _)]
  · have laid := toByteArray_lay (Nat.le_refl file.bytes.size) data
    rw [sound.size_bytes] at laid
    refine ⟨file.bytes.size, file.withBytes (file.handle.size + data.size)
      (lay file.handle.size data), ?_, sound.withBytes ?_, ?_⟩
    · simp only [append, if_neg empty, sound.size_bytes]
      rfl
    · rw [laid, size_overwrite data (Nat.le_of_eq sound.size_bytes.symm), sound.size_bytes]
      omega
    · rw [bytes_withBytes sound, laid, ← sound.size_bytes]
      rfl

/-- A file grows by zeros as far as the system can count. -/
theorem mirrors_extend {additional : Nat}
    (fits : additional ≠ 0 → file.bytes.size + additional ≤ sizeLimit) :
    file.Mirrors (extend additional) (Memory.extend additional) := by
  left
  by_cases empty : additional = 0
  · refine ⟨(), file, ?_, sound, ?_⟩
    · simp only [extend, if_pos empty]
    · rw [Memory.extend, empty, Nat.add_zero, resize, if_pos (Nat.le_refl _),
        ByteArray.extract_zero_size]
  · have room : ¬sizeLimit < file.handle.size + additional := by
      rw [← sound.size_bytes]
      exact Nat.not_lt.mpr (fits empty)
    refine ⟨(), file.withBytes (file.handle.size + additional)
      (·.resize (file.handle.size + additional)), ?_, sound.withBytes ?_, ?_⟩
    · simp only [extend, if_neg empty, if_neg room]
      rfl
    · rw [SparseBytes.toByteArray_resize, size_resize]
    · rw [bytes_withBytes sound, SparseBytes.toByteArray_resize, ← sound.size_bytes]
      rfl

theorem mirrors_truncate (newSize : Nat) :
    file.Mirrors (truncate newSize) (Memory.truncate newSize) := by
  by_cases inside : newSize ≤ file.bytes.size
  · left
    have known : ¬file.handle.size < newSize := by
      rw [← sound.size_bytes]
      exact Nat.not_lt.mpr inside
    refine ⟨(), file.withBytes newSize (·.resize newSize), ?_, sound.withBytes ?_, ?_⟩
    · rw [truncate, if_neg known]
      rfl
    · rw [SparseBytes.toByteArray_resize, size_resize]
    · rw [Memory.truncate, if_pos inside, bytes_withBytes sound, SparseBytes.toByteArray_resize]
      rfl
  · right
    have known : file.handle.size < newSize := by
      rw [← sound.size_bytes]
      exact Nat.lt_of_not_le inside
    refine ⟨.invalidTruncate newSize file.bytes.size, ?_, id, ?_⟩
    · rw [truncate, if_pos known, sound.size_bytes]
    · rw [Memory.truncate, if_neg inside]

theorem mirrors_size : file.Mirrors size Memory.size :=
  .inl ⟨file.bytes.size, file, by rw [size, sound.size_bytes], sound, rfl⟩

theorem mirrors_pure {α : Type} (value : α) : file.Mirrors (pure value) (pure value) :=
  .inl ⟨value, file, rfl, sound, rfl⟩

/-- A file does what memory does, as long as it need not grow past what the system can
count. -/
theorem mirrors_run {operation : DeviceOperation}
    (fits : ∀ additional, operation = .extend additional → additional ≠ 0 →
      file.bytes.size + additional ≤ sizeLimit) :
    file.Mirrors operation.run operation.run := by
  cases operation with
  | readAt offset length => exact (mirrors_readAt sound offset length).bind_pure _
  | readInto offset buffer => exact (mirrors_read sound offset buffer.size).bind_pure _
  | writeAt offset data => exact (mirrors_writeAt sound offset data).bind_pure _
  | append data => exact (mirrors_append sound data).bind_pure _
  | extend additional => exact (mirrors_extend sound (fits additional rfl)).bind_pure _
  | truncate newSize => exact (mirrors_truncate sound newSize).bind_pure _
  | size => exact (mirrors_size sound).bind_pure _
  | flush => exact mirrors_pure sound _
  | sync => exact mirrors_pure sound _

/-- It reads into a buffer as it reads without one. -/
theorem outcome_below (operation : DeviceOperation) :
    (Unbuffered.below operation).outcome file = operation.outcome file := by
  cases operation with
  | readInto offset buffer =>
      have same : (ByteDevice.readAt offset buffer.size : DeviceM OpenFile ByteArray) file =
          ByteDevice.readInto offset buffer.size file := readAt_eq_read sound offset buffer.size
      rw [Unbuffered.below, DeviceOperation.outcome, DeviceOperation.outcome, DeviceOperation.run,
        DeviceOperation.run]
      cases ran : (ByteDevice.readInto offset buffer.size : DeviceM OpenFile ByteArray) file with
      | ok found after => rw [bind_of_ok ran, bind_of_ok (same.trans ran)]
      | error failure after => rw [bind_of_error ran, bind_of_error (same.trans ran)]
  | _ => rfl

/-- What does not fit the system is refused. -/
theorem mirrors_or_refuses (operation : DeviceOperation) :
    file.Mirrors operation.run operation.run ∨
      operation.run file = .error (.io (.system .sizeOutOfRange)) file := by
  by_cases large : ∃ additional, operation = .extend additional ∧ additional ≠ 0 ∧
      sizeLimit < file.bytes.size + additional
  · right
    rcases large with ⟨additional, rfl, positive, large⟩
    rw [sound.size_bytes] at large
    have refused : extend additional file = .error (.io (.system .sizeOutOfRange)) file := by
      simp only [extend, if_neg positive, if_pos large]
    exact bind_of_error refused
  · left
    apply mirrors_run sound
    intro additional same positive
    by_contra exceeds
    exact large ⟨additional, same, positive, Nat.lt_of_not_le exceeds⟩

end Calls

/-- The file is as it was, or its bytes have been changed and the size known with them. -/
def Touched (file after : OpenFile) : Prop :=
  after = file ∨ ∃ known update, after = file.withBytes known update

theorem finalState_read (offset length : Nat) (file : OpenFile) :
    finalState (read offset length file) = file := by
  rw [read]
  split
  · rfl
  · split
    · rfl
    · dsimp only
      split <;> rfl

theorem finalState_readAt (offset length : Nat) (file : OpenFile) :
    finalState (readAt offset length file) = file := by
  have same := finalState_read offset length file
  rw [readAt]
  split
  · rename_i ran
    rwa [ran] at same
  · exact same

theorem touched_read (offset length : Nat) (file : OpenFile) :
    file.Touched (finalState (read offset length file)) :=
  .inl (finalState_read offset length file)

theorem touched_readAt (offset length : Nat) (file : OpenFile) :
    file.Touched (finalState (readAt offset length file)) :=
  .inl (finalState_readAt offset length file)

theorem touched_writeAt (offset : Nat) (data : ByteArray) (file : OpenFile) :
    file.Touched (finalState (writeAt offset data file)) := by
  rw [writeAt]
  split
  · exact .inl rfl
  · split
    · exact .inl rfl
    · exact .inr ⟨_, _, rfl⟩

theorem touched_append (data : ByteArray) (file : OpenFile) :
    file.Touched (finalState (append data file)) := by
  simp only [append]
  split
  · exact .inl rfl
  · exact .inr ⟨_, _, rfl⟩

theorem touched_extend (additional : Nat) (file : OpenFile) :
    file.Touched (finalState (extend additional file)) := by
  simp only [extend]
  split
  · exact .inl rfl
  · split
    · exact .inl rfl
    · exact .inr ⟨_, _, rfl⟩

theorem touched_truncate (newSize : Nat) (file : OpenFile) :
    file.Touched (finalState (truncate newSize file)) := by
  rw [truncate]
  split
  · exact .inl rfl
  · exact .inr ⟨_, _, rfl⟩

theorem touched_run (operation : DeviceOperation) (file : OpenFile) :
    file.Touched (finalState (operation.run file)) := by
  cases operation with
  | readAt offset length =>
      rw [DeviceOperation.run, finalState_bind_pure]
      exact touched_readAt offset length file
  | readInto offset buffer =>
      rw [DeviceOperation.run, finalState_bind_pure]
      exact touched_read offset buffer.size file
  | writeAt offset data =>
      rw [DeviceOperation.run, finalState_bind_pure]
      exact touched_writeAt offset data file
  | append data =>
      rw [DeviceOperation.run, finalState_bind_pure]
      exact touched_append data file
  | extend additional =>
      rw [DeviceOperation.run, finalState_bind_pure]
      exact touched_extend additional file
  | truncate newSize =>
      rw [DeviceOperation.run, finalState_bind_pure]
      exact touched_truncate newSize file
  | size => exact .inl rfl
  | flush => exact .inl rfl
  | sync => exact .inl rfl

/-! ## Files that have been opened -/

end OpenFile

namespace FileHandle

/-- Opening takes the lock, if it is asked for, on the file that the path leads to. -/
theorem openPath_run (path : Path) (mode : OpenMode) (disk : Disk) :
    openPath path mode disk =
      match Disk.openFile path mode.create disk with
      | .error reason opened => .error (.io (.system reason)) opened
      | .ok number opened =>
          if mode.lock && opened.isLocked number then .error .locked opened
          else
            .ok ⟨path, number, (opened.contents number).size, mode.lock⟩
              (if mode.lock then opened.lock number else opened) := by
  rw [openPath]
  cases ran : Disk.openFile path mode.create disk with
  | error reason opened =>
      have failed : onDisk (Disk.openFile path mode.create) disk =
          .error (.io (.system reason)) opened := by
        simp only [onDisk, ran]
      rw [bind_of_error failed]
  | ok number opened =>
      have found : onDisk (Disk.openFile path mode.create) disk = .ok number opened := by
        simp only [onDisk, ran]
      rw [bind_of_ok found]
      cases locks : mode.lock with
      | false => rfl
      | true =>
          cases held : opened.isLocked number with
          | true =>
              have refused : takeLock number opened = .error .locked opened := by
                simp only [takeLock, held, if_true]
              simp only [held, Bool.and_self, if_true]
              exact bind_of_error refused
          | false =>
              have taken : takeLock number opened = .ok () (opened.lock number) := by
                simp only [takeLock, held, Bool.false_eq_true, if_false]
              simp only [held, Bool.and_false, Bool.false_eq_true, if_true, if_false]
              exact bind_of_ok taken

end FileHandle

theorem OpenFile.sound_of_openPath {path : Path} {mode : OpenMode} {disk after : Disk}
    {handle : FileHandle} (sound : disk.Sound)
    (opened : FileHandle.openPath path mode disk = .ok handle after) :
    (⟨after, handle⟩ : OpenFile).Sound := by
  rw [FileHandle.openPath_run] at opened
  cases ran : Disk.openFile path mode.create disk with
  | error reason found =>
      rw [ran] at opened
      cases opened
  | ok number found =>
      have exists_contents := sound.lt_of_openFile ran
      have reached := Disk.openFile_again ran
      simp only [ran] at opened
      split at opened
      · cases opened
      · cases opened
        cases mode.lock
        · exact ⟨exists_contents, SparseBytes.size_toByteArray _, reached⟩
        · exact ⟨exists_contents, SparseBytes.size_toByteArray _,
            Disk.openFile_of_nodes_eq reached rfl⟩

/-! ## Files as devices -/

namespace OpenFile

theorem Sound.release {file : OpenFile} (sound : file.Sound) : file.release.Sound := by
  rcases file with ⟨disk, path, number, known, locked⟩
  cases locked
  · exact sound
  · exact ⟨sound.exists_contents, sound.size_bytes,
      Disk.openFile_of_nodes_eq sound.reached rfl⟩

theorem bytes_release (file : OpenFile) : file.release.bytes = file.bytes := by
  rcases file with ⟨disk, path, number, known, locked⟩
  cases locked <;> rfl

end OpenFile

instance : FaithfulDevice OpenFile where
  contents := OpenFile.bytes
  Sound := OpenFile.Sound
  serves operation file sound := by
    rw [DeviceOperation.outcome, DeviceOperation.outcome]
    rcases OpenFile.mirrors_or_refuses sound operation with
      (⟨answer, after, ran, afterSound, memoryRan⟩ | ⟨failure, ran, _, memoryRan⟩) | refused
    · rw [ran, memoryRan]
      exact ⟨afterSound, .inr rfl⟩
    · rw [ran, memoryRan]
      exact ⟨sound, .inr rfl⟩
    · rw [refused]
      exact ⟨sound, .inl ⟨⟨_, rfl, trivial⟩, rfl⟩⟩
  sound_release _ sound := sound.release
  contents_release := OpenFile.bytes_release

namespace OpenFile

/-- What the system refuses a file is to grow too large. -/
theorem confined_sound : ConfinedCalls Sound fun failure => ¬failure.IsRefusal where
  call operation stays file sound := by
    have fits : ∀ additional, operation = .extend additional → additional ≠ 0 →
        file.bytes.size + additional ≤ sizeLimit := by
      intro additional grows
      exact absurd grows (stays additional)
    exact (mirrors_run sound fits).confinedFrom sound
  readPastEnd _ _ _ := id

/-- The disk has the same names, locks and number of files as another one, and the
handle is the same apart from the size it knows. -/
structure SameHold (start file : OpenFile) : Prop where
  nodes : file.disk.nodes = start.disk.nodes
  locks : file.disk.locks = start.disk.locks
  count : file.disk.files.size = start.disk.files.size
  handle : ∃ known, file.handle = { start.handle with size := known }

theorem SameHold.refl (file : OpenFile) : file.SameHold file :=
  ⟨rfl, rfl, rfl, file.handle.size, rfl⟩

theorem SameHold.trans {first second third : OpenFile} (earlier : first.SameHold second)
    (later : second.SameHold third) : first.SameHold third := by
  rcases earlier.handle with ⟨known, held⟩
  rcases later.handle with ⟨further, heldLater⟩
  rw [held] at heldLater
  exact ⟨later.nodes.trans earlier.nodes, later.locks.trans earlier.locks,
    later.count.trans earlier.count, further, heldLater⟩

theorem SameHold.number {start file : OpenFile} (same : start.SameHold file) :
    file.handle.number = start.handle.number := by
  rcases same.handle with ⟨known, held⟩
  rw [held]

theorem SameHold.locked {start file : OpenFile} (same : start.SameHold file) :
    file.handle.locked = start.handle.locked := by
  rcases same.handle with ⟨known, held⟩
  rw [held]

theorem SameHold.touched {start file after : OpenFile} (same : start.SameHold file)
    (touched : file.Touched after) : start.SameHold after := by
  rcases touched with rfl | ⟨known, update, rfl⟩
  · exact same
  · refine ⟨same.nodes, same.locks, ?_, ?_⟩
    · rw [← same.count]
      exact Disk.size_files_modify ..
    · rcases same.handle with ⟨previous, held⟩
      exact ⟨known, by rw [withBytes, held]⟩

theorem sameHold_outcome (operation : DeviceOperation) (file : OpenFile) :
    file.SameHold (operation.outcome file).2 := by
  have touched := (SameHold.refl file).touched (touched_run operation file)
  rw [DeviceOperation.outcome]
  cases ran : operation.run file with
  | ok answer after | error failure after =>
      rw [ran] at touched
      exact touched

/-- No call touches the names and the locks of the disk or what the handle holds. -/
theorem confined_sameHold (start : OpenFile) (operation : DeviceOperation) :
    Confined (SameHold start) (fun _ => True) (operation.run : DeviceM OpenFile DeviceAnswer) := by
  intro file same
  have after := same.touched (touched_run operation file)
  rw [ConfinedFrom]
  cases ran : operation.run file with
  | ok answer final =>
      rw [ran] at after
      exact after
  | error failure final =>
      rw [ran] at after
      exact ⟨after, trivial⟩

theorem confinedCalls_sameHold (start : OpenFile) :
    ConfinedCalls (SameHold start) fun _ => True where
  call operation _ := confined_sameHold start operation
  readPastEnd _ _ _ := trivial

end OpenFile

end PackedRecords
