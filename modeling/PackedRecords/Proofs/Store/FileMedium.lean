import PackedRecords.Proofs.Store.OpenPath
import PackedRecords.Proofs.Store.Sessions

/-! # Files that are opened again

A store gives up its file when it is dropped, and the next store looks the path up
again. As long as the path leads to the file, that finds the same bytes. It may be
refused: another handle may hold the lock, and the system may not let the parents of the
path be created.
-/

namespace PackedRecords

namespace OpenFile

variable {file : OpenFile}

/-- What is added to a disk does not touch the files that are there. -/
theorem Sound.onGrown (sound : file.Sound) {after : Disk} (grows : file.disk.Grows after) :
    (⟨after, file.handle⟩ : OpenFile).Sound ∧
      (⟨after, file.handle⟩ : OpenFile).bytes = file.bytes := by
  have same : (⟨after, file.handle⟩ : OpenFile).bytes = file.bytes :=
    congrArg SparseBytes.toByteArray (grows.contents _ sound.exists_contents)
  refine ⟨⟨?_, ?_, Disk.openFile_mono grows.nodes sound.reached⟩, same⟩
  · exact Nat.lt_of_lt_of_le sound.exists_contents grows.count
  · rw [same]
    exact sound.size_bytes

/-- A file is still there when another handle on it has left its bytes alone. -/
theorem Sound.unheld (sound : file.Sound) {other : OpenFile} (otherSound : other.Sound)
    (path : other.handle.path = file.handle.path)
    (number : other.handle.number = file.handle.number) (same : other.bytes = file.bytes) :
    (file.unheld other.disk).Sound ∧ (file.unheld other.disk).bytes = file.bytes := by
  rcases other with ⟨disk, otherPath, otherNumber, known, locked⟩
  cases path
  cases number
  exact ⟨⟨otherSound.exists_contents, (congrArg ByteArray.size same).trans sound.size_bytes,
    otherSound.reached⟩, same⟩

/-- Opening the path of a file finds the file, unless it is refused. -/
theorem openHandle_cases (sound : file.Sound) (config : Config) :
    (∃ handle after, Store.openHandle config file.handle.path file.disk = .ok handle after ∧
        handle.path = file.handle.path ∧ handle.number = file.handle.number ∧
        (⟨after, handle⟩ : OpenFile).Sound ∧
        (⟨after, handle⟩ : OpenFile).bytes = file.bytes) ∨
      ∃ failure after,
        Store.openHandle config file.handle.path file.disk = .error failure after ∧
        failure.IsRefusal ∧ file.disk.Grows after := by
  have grows := Store.grows_prepare config file.handle.path file.disk
  rw [Store.openHandle_run]
  cases ready : Store.prepare config file.handle.path file.disk with
  | error reason prepared =>
      rw [ready] at grows
      exact .inr ⟨_, prepared, rfl, trivial, grows⟩
  | ok value prepared =>
      rw [ready] at grows
      have preparedGrows : file.disk.Grows prepared := grows
      rcases sound.onGrown preparedGrows with ⟨preparedSound, same⟩
      have found := Disk.openFile_of_exists preparedSound.reached config.createIfMissing
      simp only [FileHandle.openPath_run, found]
      by_cases refused : (config.lockFile && prepared.isLocked file.handle.number) = true
      · simp only [if_pos refused]
        exact .inr ⟨_, prepared, rfl, trivial, preparedGrows⟩
      · left
        simp only [if_neg refused]
        refine ⟨_, _, rfl, rfl, rfl, ?_⟩
        -- Taking the lock changes neither the names nor the files.
        cases config.lockFile with
        | false =>
            exact ⟨⟨preparedSound.exists_contents, SparseBytes.size_toByteArray _,
              preparedSound.reached⟩, same⟩
        | true =>
            exact ⟨⟨preparedSound.exists_contents, SparseBytes.size_toByteArray _,
              Disk.openFile_of_nodes_eq preparedSound.reached rfl⟩, same⟩

section Reopened

variable {config : Config} (sound : file.Sound)
include sound

theorem openStore_ok {store : Store OpenFile} (opened : file.openStore config = .ok store) :
    store.device.Sound ∧ store.device.bytes = file.bytes ∧
      Store.openDevice config (⟨file.bytes⟩ : Memory) =
        .ok (store.withDevice ⟨store.device.bytes⟩) := by
  rw [openStore, Store.openPath] at opened
  rcases openHandle_cases sound config with
    ⟨handle, after, found, _, _, handleSound, same⟩ | ⟨failure, after, refused, _, _⟩
  · simp only [found] at opened
    cases scanned : Store.openDevice config (⟨after, handle⟩ : OpenFile) with
    | error reported =>
        simp only [scanned] at opened
        cases opened
    | ok inner =>
        simp only [scanned] at opened
        cases opened
        rcases Store.openDevice_ok handleSound scanned with ⟨innerSound, kept, memoryOpened⟩
        rw [← same]
        exact ⟨innerSound, kept, memoryOpened⟩
  · simp only [refused] at opened
    cases opened

theorem openStore_error {failure : StoreError} {left : OpenFile}
    (failed : file.openStore config = .error (failure, left)) :
    left.Sound ∧ left.bytes = file.bytes ∧
      (failure.IsRefusal ∨
        Store.openDevice config (⟨file.bytes⟩ : Memory) = .error (failure, ⟨left.bytes⟩)) := by
  rw [openStore, Store.openPath] at failed
  rcases openHandle_cases sound config with
    ⟨handle, after, found, path, number, handleSound, same⟩ |
      ⟨reason, after, refused, refusal, grows⟩
  · simp only [found] at failed
    rcases Store.openDevice_sameHold config ⟨after, handle⟩ with
      ⟨inner, accepted, _⟩ | ⟨reason, scanned, rejected, hold, _⟩
    · simp only [accepted] at failed
      cases failed
    · rcases Store.openDevice_error handleSound rejected with ⟨scannedSound, kept, reported⟩
      simp only [rejected] at failed
      cases failed
      have scannedPath : scanned.release.handle.path = file.handle.path := by
        rcases hold.handle with ⟨known, held⟩
        rw [release, held]
        exact path
      have scannedSame : scanned.release.bytes = file.bytes := kept.trans same
      rcases sound.unheld scannedSound scannedPath (hold.number.trans number) scannedSame with
        ⟨leftSound, leftSame⟩
      refine ⟨leftSound, leftSame, reported.imp id fun memoryFailed => ?_⟩
      rw [kept] at memoryFailed
      rw [leftSame, ← same]
      exact memoryFailed
  · simp only [refused] at failed
    cases failed
    rcases sound.onGrown grows with ⟨grownSound, grownSame⟩
    rcases sound.unheld grownSound rfl rfl grownSame with ⟨leftSound, leftSame⟩
    exact ⟨leftSound, leftSame, .inl refusal⟩

end Reopened

end OpenFile

instance : FaithfulMedium OpenFile where
  opens := OpenFile.openStore_ok
  reports := OpenFile.openStore_error

end PackedRecords
