import PackedRecords.Proofs.Interruption
import PackedRecords.Proofs.Store.Following
import PackedRecords.Proofs.Store.TailShift

/-! # What an interrupted shift leaves alone

A call that fails leaves all bytes as they are, and one that succeeds leaves those alone
that it does not write. So a shift never touches a byte below both the place that the
tail comes from and the place that it goes to, at whichever of its calls it stops.
-/

namespace PackedRecords

/-- The bytes at the kept positions are those of the original, and all are there. -/
def AgreeOn (kept : Nat → Prop) (original bytes : ByteArray) : Prop :=
  ∀ position, kept position →
    position < bytes.size ∧ byteAt bytes position = byteAt original position

theorem AgreeOn.overwrite {kept : Nat → Prop} {original bytes : ByteArray}
    (agree : AgreeOn kept original bytes) {offset : Nat} {data : ByteArray}
    (inside : offset ≤ bytes.size)
    (apart : ∀ position, kept position → position < offset ∨ offset + data.size ≤ position) :
    AgreeOn kept original (PackedRecords.overwrite bytes offset data) := by
  intro position isKept
  rcases agree position isKept with ⟨there, same⟩
  have outside := apart position isKept
  rw [size_overwrite data inside, byteAt_overwrite data inside, if_neg (by omega)]
  exact ⟨by omega, same⟩

theorem AgreeOn.resize {kept : Nat → Prop} {original bytes : ByteArray}
    (agree : AgreeOn kept original bytes) {size : Nat}
    (inside : ∀ position, kept position → position < size) :
    AgreeOn kept original (PackedRecords.resize bytes size) := by
  intro position isKept
  have short := inside position isKept
  rw [size_resize, byteAt_resize, if_pos short]
  exact ⟨short, (agree position isKept).2⟩

theorem AgreeOn.extract_eq {bound : Nat} {original bytes : ByteArray}
    (agree : AgreeOn (· < bound) original bytes) (inside : bound ≤ original.size) :
    bytes.extract 0 bound = original.extract 0 bound := by
  have there : bound ≤ bytes.size := by
    apply Nat.le_of_not_lt
    intro short
    exact Nat.lt_irrefl _ (agree bytes.size short).1
  apply ext_byteAt
  · rw [ByteArray.size_extract, ByteArray.size_extract]
    omega
  · intro position below
    rw [ByteArray.size_extract] at below
    rw [byteAt_extract, byteAt_extract, if_pos (by omega), if_pos (by omega)]
    exact (agree _ (by omega)).2

/-- A failed call changes nothing in memory. -/
theorem DeviceOperation.run_memory_error {operation : DeviceOperation}
    {memory after : Memory} {failure : DeviceError}
    (ran : operation.run memory = .error failure after) : after = memory := by
  cases operation with
  | readAt offset length =>
      have failed : Memory.read offset length memory = _ := error_of_bind_pure ran
      simp only [Memory.read] at failed
      split at failed <;> cases failed
      rfl
  | readInto offset buffer =>
      have failed : Memory.read offset buffer.size memory = _ := error_of_bind_pure ran
      simp only [Memory.read] at failed
      split at failed <;> cases failed
      rfl
  | writeAt offset data =>
      have failed : Memory.writeAt offset data memory = _ := error_of_bind_pure ran
      simp only [Memory.writeAt] at failed
      split at failed <;> cases failed
      rfl
  | truncate newSize =>
      have failed : Memory.truncate newSize memory = _ := error_of_bind_pure ran
      simp only [Memory.truncate] at failed
      split at failed <;> cases failed
      rfl
  | _ => cases ran

namespace FaithfulDevice

variable {δ α : Type} [ByteDevice δ] [FaithfulDevice δ] {kept : Nat → Prop}
  {original : ByteArray}

/-- A failed call changes nothing on any faithful device. -/
theorem contents_of_error {operation : DeviceOperation} {call : DeviceM δ α}
    {answer : α → DeviceAnswer}
    (made : operation.run = call >>= fun value => pure (answer value)) {device after : δ}
    {failure : DeviceError} (sound : Sound device) (ran : call device = .error failure after) :
    Sound after ∧ contents after = contents device := by
  have outcome : operation.outcome device = (.error failure, after) := by
    rw [DeviceOperation.outcome, made, bind_of_error ran]
  have served := serves operation device sound
  rw [outcome] at served
  rcases served with ⟨afterSound, ⟨_, same⟩ | memoryOutcome⟩
  · exact ⟨afterSound, same⟩
  · refine ⟨afterSound, ?_⟩
    rw [DeviceOperation.outcome] at memoryOutcome
    cases memoryRan : operation.run (⟨contents device⟩ : Memory) with
    | ok value final =>
        rw [memoryRan] at memoryOutcome
        cases memoryOutcome
    | error reason final =>
        rw [memoryRan] at memoryOutcome
        have unchanged := DeviceOperation.run_memory_error memoryRan
        cases memoryOutcome
        exact congrArg Memory.bytes unchanged

/-- The device still has the original bytes at the kept positions. -/
structure Retains (kept : Nat → Prop) (original : ByteArray) (device : δ) : Prop where
  sound : Sound device
  agree : AgreeOn kept original (contents device)

/-! ## Single calls -/

/-- It is enough to look at what a call does in memory when it succeeds. -/
theorem keeps_call (operation : DeviceOperation) {call : DeviceM δ α}
    {reference : DeviceM Memory α} (answer : α → DeviceAnswer) {answers : α → Prop}
    (made : operation.run = call >>= fun value => pure (answer value))
    (follows : Follows call reference)
    (retained : ∀ bytes value after, AgreeOn kept original bytes →
      reference ⟨bytes⟩ = .ok value ⟨after⟩ → AgreeOn kept original after ∧ answers value) :
    Keeps (Retains kept original) call answers := by
  intro device ⟨sound, agree⟩
  cases ran : call device with
  | ok value after =>
      rcases follows.ok sound ran with ⟨afterSound, memoryRan⟩
      rcases retained _ value _ agree memoryRan with ⟨afterAgree, known⟩
      exact ⟨⟨afterSound, afterAgree⟩, known⟩
  | error failure after =>
      rcases contents_of_error made sound ran with ⟨afterSound, same⟩
      exact ⟨afterSound, by rw [same]; exact agree⟩

theorem keeps_readInto (offset length : Nat) :
    Keeps (Retains (δ := δ) kept original) (ByteDevice.readInto offset length)
      (fun data => ∀ index, index < length → kept (offset + index) →
        byteAt data index = byteAt original (offset + index)) := by
  refine keeps_call (.readInto offset (zeroBytes length)) .bytes ?_
    (follows_readInto offset length) ?_
  · rw [DeviceOperation.run, size_zeroBytes]
  · intro bytes value after agree ran
    change Memory.read offset length ⟨bytes⟩ = _ at ran
    simp only [Memory.read] at ran
    split at ran <;> cases ran
    refine ⟨agree, ?_⟩
    intro index inside isKept
    rw [byteAt_extract, if_pos (by omega)]
    exact (agree _ isKept).2

theorem keeps_writeAt {offset : Nat} {data : ByteArray}
    (apart : ∀ position, kept position → position < offset ∨ offset + data.size ≤ position) :
    Keeps (Retains (δ := δ) kept original) (ByteDevice.writeAt offset data)
      (fun _ => True) := by
  refine keeps_call (.writeAt offset data) (fun _ => .done) rfl
    (follows_writeAt offset data) ?_
  intro bytes value after agree ran
  change Memory.writeAt offset data ⟨bytes⟩ = _ at ran
  simp only [Memory.writeAt] at ran
  split at ran
  · rename_i inside
    cases ran
    exact ⟨agree.overwrite inside apart, trivial⟩
  · cases ran

theorem keeps_extend (additional : Nat) :
    Keeps (Retains (δ := δ) kept original) (ByteDevice.extend additional)
      (fun _ => True) := by
  refine keeps_call (.extend additional) (fun _ => .done) rfl
    (follows_extend additional) ?_
  intro bytes value after agree ran
  cases ran
  refine ⟨agree.resize ?_, trivial⟩
  intro position isKept
  exact Nat.lt_of_lt_of_le (agree position isKept).1 (Nat.le_add_right ..)

theorem keeps_truncate {newSize : Nat}
    (inside : ∀ position, kept position → position < newSize) :
    Keeps (Retains (δ := δ) kept original) (ByteDevice.truncate newSize)
      (fun _ => True) := by
  refine keeps_call (.truncate newSize) (fun _ => .done) rfl
    (follows_truncate newSize) ?_
  intro bytes value after agree ran
  change Memory.truncate newSize ⟨bytes⟩ = _ at ran
  simp only [Memory.truncate] at ran
  split at ran <;> cases ran
  exact ⟨agree.resize inside, trivial⟩

theorem keeps_size :
    Keeps (Retains (δ := δ) kept original) ByteDevice.size
      (fun size => ∀ position, kept position → position < size) := by
  refine keeps_call .size .number rfl follows_size ?_
  intro bytes value after agree ran
  cases ran
  exact ⟨agree, fun position isKept => (agree position isKept).1⟩

theorem keeps_sync :
    Keeps (Retains (δ := δ) kept original) ByteDevice.sync (fun _ => True) := by
  refine keeps_call .sync (fun _ => .done) rfl follows_sync ?_
  intro bytes value after agree ran
  cases ran
  exact ⟨agree, trivial⟩

/-! ## Shifting -/

variable {bound : Nat}

theorem keeps_copyChunk {destination : Nat} (above : bound ≤ destination)
    (origin length : Nat) :
    Keeps (Retains (δ := δ) (· < bound) original) (copyChunk origin destination length)
      (fun _ => True) :=
  (keeps_readInto origin length).bind fun _ _ =>
    keeps_writeAt fun _ below => .inl (Nat.lt_of_lt_of_le below above)

theorem keeps_copyUp (buffer : Nat) (positive : 0 < buffer) {source distance : Nat}
    (above : bound ≤ source + distance) (remaining : Nat) :
    Keeps (Retains (δ := δ) (· < bound) original)
      (copyUp buffer positive source distance remaining) (fun _ => True) := by
  induction remaining using Nat.strongRecOn with
  | ind remaining induction =>
      rw [copyUp]
      split
      · exact keeps_pure trivial
      · exact (keeps_copyChunk (by omega) _ _).bind fun _ _ => induction _ (by omega)

theorem keeps_copyDown (buffer : Nat) (positive : 0 < buffer) {source distance : Nat}
    (above : bound + distance ≤ source) (remaining : Nat) :
    Keeps (Retains (δ := δ) (· < bound) original)
      (copyDown buffer positive source distance remaining) (fun _ => True) := by
  induction remaining using Nat.strongRecOn generalizing source with
  | ind remaining induction =>
      rw [copyDown]
      split
      · exact keeps_pure trivial
      · exact (keeps_copyChunk (by omega) _ _).bind fun _ _ =>
          induction _ (by omega) (by omega)

/-- Nothing is written below the place that the tail comes from and the place that it
goes to. -/
theorem keeps_shiftTail (buffer : Nat) (positive : 0 < buffer) {source : Nat} {delta : Int}
    (belowSource : bound ≤ source) (belowTarget : (bound : Int) ≤ source + delta) :
    Keeps (Retains (δ := δ) (· < bound) original) (shiftTail buffer positive source delta)
      (fun _ => True) := by
  refine keeps_size.bind fun size _ => ?_
  by_cases short : size < source
  · simp only [if_pos short]
    exact keeps_throw_bind _ _
  · simp only [if_neg short]
    have finish (length : Nat) : Keeps (Retains (· < bound) original)
        (pure length : DeviceM δ Nat) (fun _ => True) := keeps_pure trivial
    cases delta with
    | ofNat distance =>
        cases distance with
        | zero => exact finish _
        | succ distance =>
            exact (keeps_extend _).bind fun _ _ =>
              (keeps_copyUp buffer positive (by omega) _).bind fun _ _ => finish _
    | negSucc below =>
        have room : bound + (below + 1) ≤ source := by omega
        refine (keeps_copyDown buffer positive room _).bind fun _ _ => ?_
        exact (keeps_truncate fun position isKept => by omega).bind fun _ _ => finish _

end FaithfulDevice

end PackedRecords
