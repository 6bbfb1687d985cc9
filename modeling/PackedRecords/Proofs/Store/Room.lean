import PackedRecords.Proofs.Disk.OpenFile
import PackedRecords.Proofs.Store.Served

/-! # Stores in files with room

A file refuses a store nothing but to grow past what the system can count. So an
operation of a described store is done as on the ledger if the records that it leaves
still fit into a file.
-/

namespace PackedRecords

/-- Failures that are not refusals of the device are not refusals at all. -/
theorem StoreError.From.served {failure : StoreError}
    (reported : failure.From fun reason => ¬reason.IsRefusal) : ¬failure.IsRefusal := by
  cases failure with
  | device reason => exact reported
  | payloadTooLarge length limit => exact id
  | corruptRecord offset fault => exact id
  | closed => exact id
  | io reason => exact reported.elim
  | codec reason => exact reported.elim
  | locked => exact reported.elim

/-! ## Growing -/

/-- The tail of a file is moved up as far as there is room. -/
theorem OpenFile.confinedFrom_shiftTail {file : OpenFile} (sound : file.Sound) (buffer : Nat)
    (positive : 0 < buffer) (source : Nat) {delta : Int}
    (room : (file.bytes.size : Int) + delta ≤ sizeLimit) :
    ConfinedFrom Sound (fun failure => ¬failure.IsRefusal)
      (shiftTail buffer positive source delta) file := by
  have known : (ByteDevice.size : DeviceM OpenFile Nat) file = .ok file.handle.size file := rfl
  have growing : ∀ distance : Nat, delta = distance + 1 → ConfinedFrom Sound
      (fun failure => ¬failure.IsRefusal) (ByteDevice.extend (distance + 1)) file := by
    intro distance grows
    have fits : distance + 1 ≠ 0 → file.bytes.size + (distance + 1) ≤ sizeLimit := by
      intro _
      omega
    exact (mirrors_extend sound fits).confinedFrom sound
  clear room
  rw [shiftTail]
  refine ConfinedFrom.of_ok ?_ known
  by_cases past : file.handle.size < source
  · simp only [if_pos past]
    refine ConfinedFrom.throw_bind ?_ sound _
    exact confined_sound.readPastEnd source 0 _
  · simp only [if_neg past]
    cases delta with
    | ofNat distance =>
        cases distance with
        | zero => exact confined_pure _ file sound
        | succ distance =>
            -- Once the file has grown, everything else happens within its size.
            exact (growing distance rfl).bind fun _ =>
              (confined_sound.copyUp _ _ _ _ _).bind fun _ => confined_pure _
    | negSucc below =>
        exact (confined_sound.copyDown _ _ _ _ _ file sound).bind fun _ =>
          (confined_sound.truncate _).bind fun _ => confined_pure _

namespace Store

variable {α : Type} {config : Config} {isOpen : Bool} {store : Store OpenFile}

/-- On an open file nothing is refused. -/
abbrev Serves (action : StoreM OpenFile α) (store : Store OpenFile) : Prop :=
  ConfinedFrom (Stays OpenFile.Sound store.config store.isOpen)
    (StoreError.From fun failure => ¬failure.IsRefusal) action store

/-- The length of a record that is there can be read. -/
theorem exists_readValidLength {front back : ByteArray} {record : Record}
    (sound : store.device.Sound) (held : store.device.bytes = front ++ record.encode ++ back)
    (short : record.payload.size ≤ store.config.payloadLimit) :
    ∃ middle, readValidLength front.size store = .ok record.payload.size middle ∧
      middle.device.Sound ∧ middle.inMemory = store.inMemory := by
  rcases store with ⟨file, index, config, stats, isOpen⟩
  have memoryRead : readValidLength front.size
      (⟨⟨front ++ record.encode ++ back⟩, index, config, stats, isOpen⟩ : Store Memory) =
        .ok record.payload.size _ := readValidLength_run front back record short
  rw [← held] at memoryRead
  have reads : Serves (readValidLength front.size)
      (⟨file, index, config, stats, isOpen⟩ : Store OpenFile) :=
    confines_readValidLength OpenFile.confined_sound _ _ ⟨sound, rfl, rfl⟩
  have follows : (reflection OpenFile).Follows _ _ := follows_readValidLength front.size
  have started : (reflection OpenFile).Sound ⟨file, index, config, stats, isOpen⟩ := sound
  exact follows.ok_of_reference started
    (fun _ _ failed => (reads.error failed).2.served) memoryRead

/-- A payload gets another one in its place if there is room for it. -/
theorem serves_update {offset length : Nat} {payload : ByteArray} (sound : store.device.Sound)
    {middle : Store OpenFile} (read : readValidLength offset store = .ok length middle)
    (middleSound : middle.device.Sound) (same : middle.inMemory = store.inMemory)
    (room : (store.device.bytes.size : Int) + (payload.size - length) ≤ OpenFile.sizeLimit) :
    Serves (update offset payload) store := by
  have calls := OpenFile.confined_sound
  rcases middle with ⟨file, index, config, stats, isOpen⟩
  rcases store with ⟨started, _, _, _, _⟩
  rcases Store.mk.inj same with ⟨sameBytes, rfl, rfl, rfl, rfl⟩
  have bytes : file.bytes = started.bytes := congrArg Memory.bytes sameBytes
  have stays : Stays OpenFile.Sound config isOpen
    (⟨file, index, config, stats, isOpen⟩ : Store OpenFile) := ⟨middleSound, rfl, rfl⟩
  have shifts := OpenFile.confinedFrom_shiftTail middleSound config.shiftBufferLength
    config.shiftBufferLength_pos (offset + headerSize + length) (bytes ▸ room)
  refine ConfinedFrom.of_ok ?_ read
  by_cases unchanged : length = payload.size
  · simp only [if_pos unchanged]
    exact (confines_onDevice (calls.writeAt _ _)).bind (fun _ => confines_count _) _ stays
  · simp only [if_neg unchanged]
    have moves : ConfinedFrom (Stays OpenFile.Sound config isOpen)
        (StoreError.From fun failure => ¬failure.IsRefusal)
        (shiftAfter (offset + headerSize + length) (payload.size - length))
        (⟨file, index, config, stats, isOpen⟩ : Store OpenFile) := by
      refine ConfinedFrom.of_ok ?_ (view_run _ _)
      exact (confinedFrom_onDevice stays shifts).bind fun _ =>
        (confines_reindex _).bind fun _ => confined_pure _
    exact moves.bind fun _ => (confines_count _).bind fun _ =>
      (confines_onDevice (calls.writeAt _ _)).bind fun _ =>
        (confines_onDevice (calls.writeAt _ _)).bind fun _ => confines_count _

end Store

namespace Ledger

/-- The records fit into a file. -/
def Fits (ledger : Ledger) : Prop :=
  (image ledger.records).size ≤ OpenFile.sizeLimit

variable {ledger : Ledger} {store : Store OpenFile} (describes : ledger.Describes store)
  (sound : store.device.Sound)
include describes sound

/-- A put is served if there is room for the records that it leaves. -/
theorem Describes.serves_put {key : EntityId} {payload : ByteArray}
    (room : (ledger.apply store.config.payloadLimit (.put key payload)).2.Fits) :
    Store.Serves (Store.put key payload) store := by
  have calls := OpenFile.confined_sound
  have reference := describes_inMemory.mpr describes
  rcases store with ⟨file, index, config, stats, isOpen⟩
  cases describes.isOpen
  have stays : Store.Stays OpenFile.Sound config true
    (⟨file, index, config, stats, true⟩ : Store OpenFile) := ⟨sound, rfl, rfl⟩
  by_cases large : config.payloadLimit < payload.size
  · have refused : Store.put key payload (⟨file, index, config, stats, true⟩ : Store OpenFile) =
        .error (.payloadTooLarge payload.size config.payloadLimit)
          ⟨file, index, config, stats, true⟩ := Store.put_run_large large file
    rw [Store.Serves, ConfinedFrom, refused]
    exact ⟨stays, trivial⟩
  · have short := Nat.le_of_not_lt large
    by_cases inUse : key ∈ ledger.live
    · rcases reference.exists_split inUse with
        ⟨before, record, after, split, rfl, last, found, held, recordShort⟩
      have bytes : file.bytes = image before ++ record.encode ++ image after := held
      have started : (⟨file, index, config, stats, true⟩ : Store OpenFile).device.Sound := sound
      rcases Store.exists_readValidLength started bytes recordShort with
        ⟨middle, read, middleSound, same⟩
      have grown : (file.bytes.size : Int) + (payload.size - record.payload.size) ≤
          OpenFile.sizeLimit := by
        rw [Fits, apply, if_neg large, put, if_pos inUse, split, replaceLast_split rfl last,
          image_split] at room
        simp only [bytes, ByteArray.size_append, Record.size_encode, Record.size_eq] at room ⊢
        omega
      refine ConfinedFrom.of_eq ?_ (Store.put_eq_update short file found)
      exact (Store.serves_update sound read middleSound same grown).bind fun _ =>
        Store.confines_syncIfConfigured calls
    · have missing := reference.getElem?_index_of_not_mem inUse
      refine ConfinedFrom.of_eq ?_ (Store.put_eq_append short file missing)
      exact (Store.confines_append calls key payload).bind
        (fun _ => Store.confines_syncIfConfigured calls) _ stays

/-- An operation is done as on the ledger, a put if there is room for what it leaves. -/
theorem Describes.outcome_of_fits {operation : StoreOperation} (remains : operation ≠ .close)
    (room : ∀ key payload, operation = .put key payload →
      (ledger.apply store.config.payloadLimit operation).2.Fits) :
    (operation.outcome store).1 = (ledger.apply store.config.payloadLimit operation).1 ∧
      (ledger.apply store.config.payloadLimit operation).2.Describes
        (operation.outcome store).2 ∧
      (operation.outcome store).2.device.Sound ∧
      (operation.outcome store).2.config = store.config := by
  apply describes.outcome_of_served sound operation remains
  have stays : Store.Stays OpenFile.Sound store.config store.isOpen store := ⟨sound, rfl, rfl⟩
  have serves : Store.Serves operation.run store := by
    cases operation with
    | put key payload =>
        exact (describes.serves_put sound (room key payload rfl)).bind fun _ => confined_pure _
    | _ => exact StoreOperation.confines_run OpenFile.confined_sound remains (by simp) store stays
  intro failure failed
  rw [StoreOperation.outcome] at failed
  cases ran : operation.run store with
  | ok answer after =>
      rw [ran] at failed
      cases failed
  | error reason after =>
      rw [ran] at failed
      cases failed
      exact (serves.error ran).2.served

end Ledger

end PackedRecords
