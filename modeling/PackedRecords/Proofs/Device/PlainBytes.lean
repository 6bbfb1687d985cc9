import PackedRecords.Device.Unbuffered
import PackedRecords.Proofs.Disk.OpenFile

/-! # Byte devices are plain bytes

Plain bytes say what every byte device does, in the operations of byte strings alone.
Memory, an open file and either of them without its own way of reading into a buffer
answer alike, call by call, and end with the same bytes. A file must not grow past what
the system can count.
-/

namespace PackedRecords

/-! ## What a caller sees -/

/-- The answer to an operation, and what a buffer that was read into holds then. -/
abbrev Sight := Except DeviceError DeviceAnswer × Option ByteArray

namespace DeviceOperation

def sight (operation : DeviceOperation) (answer : Except DeviceError DeviceAnswer) : Sight :=
  match operation with
  | .readInto _ buffer => (answer, some (bufferOf buffer answer))
  | _ => (answer, none)

/-- What a caller sees of operations that are run one after another. -/
def observe {δ : Type} [ByteDevice δ] (operations : List DeviceOperation) (device : δ) :
    List Sight × δ :=
  let (answers, device) := runAll operations device
  (operations.zipWith sight answers, device)

end DeviceOperation

/-! ## Plain bytes -/

namespace PlainBytes

def zeros (count : Nat) : ByteArray :=
  ⟨Array.replicate count 0⟩

/-- The `length` bytes from `offset` on, which must all be there. -/
def read (bytes : ByteArray) (offset length : Nat) : Except DeviceError ByteArray :=
  if offset + length ≤ bytes.size then .ok (bytes.extract offset (offset + length))
  else .error (.readPastEnd offset length bytes.size)

/-- What is seen of an operation on plain bytes, and the bytes afterwards. -/
def step (bytes : ByteArray) : DeviceOperation → Sight × ByteArray
  | .readAt offset length =>
      (((read bytes offset length).map .bytes, none), bytes)
  | .readInto offset buffer =>
      let found := read bytes offset buffer.size
      ((found.map .bytes, some (found.toOption.getD buffer)), bytes)
  | .writeAt offset data =>
      if offset ≤ bytes.size then
        ((.ok .done, none),
          bytes.extract 0 offset ++ data ++ bytes.extract (offset + data.size) bytes.size)
      else ((.error (.writePastEnd offset bytes.size), none), bytes)
  | .append data => ((.ok (.number bytes.size), none), bytes ++ data)
  | .extend additional => ((.ok .done, none), bytes ++ zeros additional)
  | .truncate newSize =>
      if newSize ≤ bytes.size then ((.ok .done, none), bytes.extract 0 newSize)
      else ((.error (.invalidTruncate newSize bytes.size), none), bytes)
  | .size => ((.ok (.number bytes.size), none), bytes)
  | .flush | .sync => ((.ok .done, none), bytes)

def runAll (operations : List DeviceOperation) (bytes : ByteArray) : List Sight × ByteArray :=
  match operations with
  | [] => ([], bytes)
  | operation :: rest =>
      let (seen, bytes) := step bytes operation
      let (later, bytes) := runAll rest bytes
      (seen :: later, bytes)

/-- The system can count the bytes after each of the operations. -/
def Countable (operations : List DeviceOperation) (bytes : ByteArray) : Prop :=
  ∀ earlier ∈ operations.inits, (runAll earlier bytes).2.size ≤ OpenFile.sizeLimit

instance (operations : List DeviceOperation) (bytes : ByteArray) :
    Decidable (Countable operations bytes) :=
  inferInstanceAs (Decidable (∀ earlier ∈ operations.inits,
    (runAll earlier bytes).2.size ≤ OpenFile.sizeLimit))

theorem Countable.cons {operation : DeviceOperation} {rest : List DeviceOperation}
    {bytes : ByteArray} (countable : Countable (operation :: rest) bytes) :
    (step bytes operation).2.size ≤ OpenFile.sizeLimit ∧
      Countable rest (step bytes operation).2 := by
  constructor
  · exact countable [operation] (by simp)
  · intro earlier member
    apply countable (operation :: earlier)
    simpa using member

/-- A failing operation changes neither the bytes nor the caller's buffer. -/
theorem step_error {bytes : ByteArray} {operation : DeviceOperation} {failure : DeviceError}
    (failed : (step bytes operation).1.1 = .error failure) :
    (step bytes operation).2 = bytes ∧
      ∀ offset buffer, operation = .readInto offset buffer →
        (step bytes operation).1.2 = some buffer := by
  cases operation with
  | readInto offset buffer =>
      refine ⟨rfl, ?_⟩
      intro _ _ same
      cases same
      by_cases inside : offset + buffer.size ≤ bytes.size
      · simp [step, read, inside, Except.map] at failed
      · simp [step, read, inside, Except.toOption]
  | writeAt offset data =>
      by_cases inside : offset ≤ bytes.size
      · simp [step, inside] at failed
      · simp [step, inside]
  | truncate newSize =>
      by_cases inside : newSize ≤ bytes.size
      · simp [step, inside] at failed
      · simp [step, inside]
  | readAt offset length => exact ⟨rfl, by simp⟩
  | append data => cases failed
  | extend additional => cases failed
  | size => cases failed
  | flush => cases failed
  | sync => cases failed

/-! ## Devices that do what plain bytes do -/

/-- A device that stands for bytes is seen to do what they do, and stands for what they
become, as long as the system can count them. -/
def Refines {δ : Type} [ByteDevice δ] (holds : δ → ByteArray → Prop) : Prop :=
  ∀ device bytes operation, holds device bytes →
    (step bytes operation).2.size ≤ OpenFile.sizeLimit →
      operation.sight (operation.outcome device).1 = (step bytes operation).1 ∧
        holds (operation.outcome device).2 (step bytes operation).2

variable {δ : Type} [ByteDevice δ] {holds : δ → ByteArray → Prop}

theorem Refines.observe (refines : Refines holds) {operations : List DeviceOperation}
    {device : δ} {bytes : ByteArray} (stands : holds device bytes)
    (countable : Countable operations bytes) :
    ∃ after, DeviceOperation.observe operations device =
        ((runAll operations bytes).1, after) ∧
      holds after (runAll operations bytes).2 := by
  induction operations generalizing device bytes with
  | nil => exact ⟨device, rfl, stands⟩
  | cons operation rest induction =>
      rcases countable.cons with ⟨counted, later⟩
      rcases refines device bytes operation stands counted with ⟨seen, still⟩
      rcases induction still later with ⟨after, observed, ends⟩
      refine ⟨after, ?_, ends⟩
      rw [DeviceOperation.observe] at observed ⊢
      rcases Prod.mk.inj observed with ⟨sights, same⟩
      rw [DeviceOperation.runAll, runAll]
      simp only [List.zipWith_cons_cons, seen, sights, same]

theorem size_zeros (count : Nat) : (zeros count).size = count :=
  Array.size_replicate

theorem zeroBytes_eq_zeros (count : Nat) : zeroBytes count = zeros count := by
  rw [zeroBytes, repeatedByte_eq_replicate, zeros]

theorem resize_of_le {bytes : ByteArray} {size : Nat} (shorter : size ≤ bytes.size) :
    resize bytes size = bytes.extract 0 size := by
  rw [resize, if_pos shorter]

theorem resize_add (bytes : ByteArray) (additional : Nat) :
    resize bytes (bytes.size + additional) = bytes ++ zeros additional := by
  rw [resize]
  by_cases nothing : additional = 0
  · have empty : zeros 0 = ByteArray.empty := rfl
    rw [nothing, Nat.add_zero, if_pos (Nat.le_refl _), ByteArray.extract_zero_size, empty,
      ByteArray.append_empty]
  · rw [if_neg (by omega), Nat.add_sub_cancel_left, zeroBytes_eq_zeros]

theorem outcome_of_ok {α : Type} {operation : DeviceOperation} {call : DeviceM δ α}
    {device after : δ} {value : α} (answer : α → DeviceAnswer)
    (made : operation.run = call >>= fun value => pure (answer value))
    (ran : call device = .ok value after) :
    operation.outcome device = (.ok (answer value), after) := by
  rw [DeviceOperation.outcome, made, bind_of_ok ran, pure_run]

theorem outcome_of_error {α : Type} {operation : DeviceOperation} {call : DeviceM δ α}
    {device after : δ} {failure : DeviceError} (answer : α → DeviceAnswer)
    (made : operation.run = call >>= fun value => pure (answer value))
    (ran : call device = .error failure after) :
    operation.outcome device = (.error failure, after) := by
  rw [DeviceOperation.outcome, made, bind_of_error ran]

theorem memory_read_inside {bytes : ByteArray} {offset length : Nat}
    (inside : offset + length ≤ bytes.size) :
    Memory.read offset length ⟨bytes⟩ =
      .ok (bytes.extract offset (offset + length)) ⟨bytes⟩ := by
  simp [Memory.read, inside]

theorem memory_read_outside {bytes : ByteArray} {offset length : Nat}
    (outside : ¬offset + length ≤ bytes.size) :
    Memory.read offset length ⟨bytes⟩ =
      .error (.readPastEnd offset length bytes.size) ⟨bytes⟩ := by
  simp [Memory.read, outside]

/-- Memory does what plain bytes do. -/
theorem outcome_memory (bytes : ByteArray) (operation : DeviceOperation) :
    operation.sight (operation.outcome (⟨bytes⟩ : Memory)).1 = (step bytes operation).1 ∧
      (operation.outcome (⟨bytes⟩ : Memory)).2 = ⟨(step bytes operation).2⟩ := by
  cases operation with
  | readAt offset length =>
      by_cases inside : offset + length ≤ bytes.size
      · rw [outcome_of_ok .bytes rfl (memory_read_inside inside)]
        simp [DeviceOperation.sight, step, read, inside, Except.map]
      · rw [outcome_of_error .bytes rfl (memory_read_outside inside)]
        simp [DeviceOperation.sight, step, read, inside, Except.map]
  | readInto offset buffer =>
      by_cases inside : offset + buffer.size ≤ bytes.size
      · rw [outcome_of_ok .bytes rfl (memory_read_inside inside)]
        simp [DeviceOperation.sight, DeviceOperation.bufferOf, step, read, inside, Except.map,
          Except.toOption]
      · rw [outcome_of_error .bytes rfl (memory_read_outside inside)]
        simp [DeviceOperation.sight, DeviceOperation.bufferOf, bufferAfter, step, read, inside,
          Except.map, Except.toOption]
  | writeAt offset data =>
      by_cases inside : offset ≤ bytes.size
      · have ran : Memory.writeAt offset data ⟨bytes⟩ = .ok () ⟨overwrite bytes offset data⟩ := by
          simp [Memory.writeAt, inside]
        rw [outcome_of_ok (fun _ => .done) rfl ran]
        simp [DeviceOperation.sight, step, inside, overwrite_eq_append]
      · have ran : Memory.writeAt offset data ⟨bytes⟩ =
            .error (.writePastEnd offset bytes.size) ⟨bytes⟩ := by
          simp [Memory.writeAt, inside]
        rw [outcome_of_error (fun _ => .done) rfl ran]
        simp [DeviceOperation.sight, step, inside]
  | append data =>
      have ran : Memory.append data ⟨bytes⟩ = .ok bytes.size ⟨bytes ++ data⟩ := by
        simp [Memory.append, overwrite_at_end]
      rw [outcome_of_ok .number rfl ran]
      simp [DeviceOperation.sight, step]
  | extend additional =>
      have ran : Memory.extend additional ⟨bytes⟩ = .ok () ⟨bytes ++ zeros additional⟩ := by
        simp [Memory.extend, resize_add]
      rw [outcome_of_ok (fun _ => .done) rfl ran]
      simp [DeviceOperation.sight, step]
  | truncate newSize =>
      by_cases inside : newSize ≤ bytes.size
      · have ran : Memory.truncate newSize ⟨bytes⟩ = .ok () ⟨bytes.extract 0 newSize⟩ := by
          simp [Memory.truncate, inside, resize_of_le]
        rw [outcome_of_ok (fun _ => .done) rfl ran]
        simp [DeviceOperation.sight, step, inside]
      · have ran : Memory.truncate newSize ⟨bytes⟩ =
            .error (.invalidTruncate newSize bytes.size) ⟨bytes⟩ := by
          simp [Memory.truncate, inside]
        rw [outcome_of_error (fun _ => .done) rfl ran]
        simp [DeviceOperation.sight, step, inside]
  | size => exact ⟨rfl, rfl⟩
  | flush => exact ⟨rfl, rfl⟩
  | sync => exact ⟨rfl, rfl⟩

theorem refines_memory : Refines fun (memory : Memory) bytes => memory = ⟨bytes⟩ := by
  rintro _ bytes operation rfl _
  exact outcome_memory bytes operation

/-- A file that knows its size does what plain bytes do. -/
theorem refines_openFile :
    Refines fun (file : OpenFile) bytes => file.Sound ∧ file.bytes = bytes := by
  rintro file _ operation ⟨sound, rfl⟩ counted
  have fits : ∀ additional, operation = .extend additional → additional ≠ 0 →
      file.bytes.size + additional ≤ OpenFile.sizeLimit := by
    rintro additional rfl _
    rwa [step, ByteArray.size_append, size_zeros] at counted
  rcases outcome_memory file.bytes operation with ⟨seen, bytes⟩
  rw [DeviceOperation.outcome] at seen bytes ⊢
  rcases OpenFile.mirrors_run sound fits with
    ⟨answer, after, ran, afterSound, memoryRan⟩ | ⟨failure, ran, _, memoryRan⟩
  · rw [memoryRan] at seen bytes
    rw [ran]
    exact ⟨seen, afterSound, congrArg Memory.bytes bytes⟩
  · rw [memoryRan] at seen bytes
    rw [ran]
    exact ⟨seen, sound, congrArg Memory.bytes bytes⟩

/-- A device that reads into a buffer as it reads otherwise can do without its own way
of reading into a buffer. -/
theorem Refines.unbuffered (refines : Refines holds)
    (same : ∀ (operation : DeviceOperation) (device : δ) (bytes : ByteArray), holds device bytes →
      (Unbuffered.below operation).outcome device = operation.outcome device) :
    Refines fun (wrapped : Unbuffered δ) bytes => holds wrapped.device bytes := by
  intro wrapped bytes operation stands counted
  rw [Unbuffered.outcome_eq, same operation wrapped.device bytes stands]
  exact refines wrapped.device bytes operation stands counted

theorem refines_unbuffered_memory :
    Refines fun (wrapped : Unbuffered Memory) bytes => wrapped.device = ⟨bytes⟩ :=
  refines_memory.unbuffered fun operation memory _ _ =>
    Unbuffered.outcome_below_memory operation memory

theorem refines_unbuffered_openFile : Refines fun (wrapped : Unbuffered OpenFile) bytes =>
    wrapped.device.Sound ∧ wrapped.device.bytes = bytes :=
  refines_openFile.unbuffered fun operation _ _ stands =>
    OpenFile.outcome_below stands.1 operation

end PlainBytes

/-- The devices agree with plain bytes and with one another, from the bytes of a file
that is opened on: on all that a caller sees, call by call, on the bytes at the end and
on their number, which the file always knows. A call that fails changes nothing. -/
theorem PlainBytes.devices_agree {path : Path} {mode : OpenMode} {disk opened : Disk}
    {handle : FileHandle} (sound : disk.Sound)
    (accepted : FileHandle.openPath path mode disk = .ok handle opened)
    {operations : List DeviceOperation}
    (countable : Countable operations (opened.contents handle.number).toByteArray) :
    let initial := (opened.contents handle.number).toByteArray
    let expected := runAll operations initial
    ∃ file : OpenFile,
      DeviceOperation.observe operations (⟨opened, handle⟩ : OpenFile) = (expected.1, file) ∧
      file.bytes = expected.2 ∧ file.handle.size = file.bytes.size ∧
      DeviceOperation.observe operations (⟨initial⟩ : Memory) = (expected.1, ⟨expected.2⟩) ∧
      DeviceOperation.observe operations (⟨⟨initial⟩⟩ : Unbuffered Memory) =
        (expected.1, ⟨⟨expected.2⟩⟩) ∧
      (∃ wrapped : Unbuffered OpenFile,
        DeviceOperation.observe operations (⟨⟨opened, handle⟩⟩ : Unbuffered OpenFile) =
            (expected.1, wrapped) ∧
          wrapped.device.bytes = expected.2 ∧
          wrapped.device.handle.size = wrapped.device.bytes.size) ∧
      ∀ operation failure, (step expected.2 operation).1.1 = .error failure →
        (step expected.2 operation).2 = expected.2 ∧
          ∀ offset buffer, operation = .readInto offset buffer →
            (step expected.2 operation).1.2 = some buffer := by
  intro initial expected
  have fileSound : (⟨opened, handle⟩ : OpenFile).Sound := OpenFile.sound_of_openPath sound accepted
  have wrappedSound : (⟨⟨opened, handle⟩⟩ : Unbuffered OpenFile).device.Sound := fileSound
  have wrapped : (⟨⟨initial⟩⟩ : Unbuffered Memory).device = ⟨initial⟩ := rfl
  rcases refines_openFile.observe ⟨fileSound, rfl⟩ countable with
    ⟨file, seen, fileStill, fileBytes⟩
  rcases refines_memory.observe rfl countable with ⟨memory, memorySeen, rfl⟩
  rcases refines_unbuffered_memory.observe wrapped countable with
    ⟨⟨inner⟩, innerSeen, innerBytes⟩
  rcases refines_unbuffered_openFile.observe ⟨wrappedSound, rfl⟩ countable with
    ⟨⟨last⟩, lastSeen, lastStill, lastBytes⟩
  cases innerBytes
  exact ⟨file, seen, fileBytes, fileStill.size_bytes.symm, memorySeen, innerSeen,
    ⟨⟨last⟩, lastSeen, lastBytes, lastStill.size_bytes.symm⟩, fun _ _ failed => step_error failed⟩

/-- A file of three bytes, opened with its lock: a write that reaches past the end, a
truncation that would grow it, zeros at the end and a read of all of it. -/
theorem PlainBytes.devices_agree_three_bytes :
    ∃ file : OpenFile,
      FileHandle.openPath ⟨"f"⟩ ⟨false, true⟩
          ⟨[(["f"], .file 0)], #[.ofByteArray "abc".toUTF8], []⟩ =
        .ok ⟨⟨"f"⟩, 0, 3, true⟩ ⟨[(["f"], .file 0)], #[.ofByteArray "abc".toUTF8], [0]⟩ ∧
      DeviceOperation.observe
          [.writeAt 2 "xy".toUTF8, .truncate 5, .extend 1, .readInto 0 "12345".toUTF8]
          (⟨⟨[(["f"], .file 0)], #[.ofByteArray "abc".toUTF8], [0]⟩,
            ⟨⟨"f"⟩, 0, 3, true⟩⟩ : OpenFile) =
        ([(.ok .done, none), (.error (.invalidTruncate 5 4), none), (.ok .done, none),
          (.ok (.bytes "abxy\x00".toUTF8), some "abxy\x00".toUTF8)], file) ∧
      file.bytes = "abxy\x00".toUTF8 ∧ file.handle.size = 5 := by
  let disk : Disk := ⟨[(["f"], .file 0)], #[.ofByteArray "abc".toUTF8], []⟩
  let operations : List DeviceOperation :=
    [.writeAt 2 "xy".toUTF8, .truncate 5, .extend 1, .readInto 0 "12345".toUTF8]
  have sound : disk.Sound := by
    constructor
    · intro names number member
      cases List.mem_singleton.mp member
      decide
    · exact List.forall_mem_nil _
  have accepted : FileHandle.openPath ⟨"f"⟩ ⟨false, true⟩ disk =
      .ok ⟨⟨"f"⟩, 0, 3, true⟩ (disk.lock 0) := by cbv
  have held : ((disk.lock 0).contents 0).toByteArray = "abc".toUTF8 := by cbv
  have countable : Countable operations ((disk.lock 0).contents 0).toByteArray := by
    rw [held]
    decide +kernel
  have ran : runAll operations "abc".toUTF8 =
      ([(.ok .done, none), (.error (.invalidTruncate 5 4), none), (.ok .done, none),
        (.ok (.bytes "abxy\x00".toUTF8), some "abxy\x00".toUTF8)], "abxy\x00".toUTF8) := by
    decide +kernel
  rcases devices_agree sound accepted countable with ⟨file, seen, bytes, size, _⟩
  rw [held, ran] at seen bytes
  refine ⟨file, accepted, seen, bytes, ?_⟩
  rw [size, bytes]
  decide +kernel

end PackedRecords
