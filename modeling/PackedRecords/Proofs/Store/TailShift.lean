import PackedRecords.Device.Memory
import PackedRecords.Proofs.Bytes
import PackedRecords.Proofs.Simulation
import PackedRecords.Store.TailShift

/-! # What a shift does to bytes in memory

Copying a range chunk by chunk has the effect of copying it at once, because the
chunks go in the direction in which no byte is read after it has been overwritten.
So a shift lets a part of the bytes shrink or grow in place, and the buffer does not
show in the result.
-/

namespace PackedRecords

/-! ## Calls in memory -/

namespace Memory

theorem readInto_run {bytes : ByteArray} {offset length : Nat}
    (inside : offset + length ≤ bytes.size) :
    (ByteDevice.readInto offset length : DeviceM Memory ByteArray) ⟨bytes⟩ =
      .ok (bytes.extract offset (offset + length)) ⟨bytes⟩ := by
  change read offset length ⟨bytes⟩ = _
  simp only [read, if_pos inside]

theorem readAt_run {bytes : ByteArray} {offset length : Nat}
    (inside : offset + length ≤ bytes.size) :
    (ByteDevice.readAt offset length : DeviceM Memory ByteArray) ⟨bytes⟩ =
      .ok (bytes.extract offset (offset + length)) ⟨bytes⟩ :=
  readInto_run inside

theorem writeAt_run {bytes : ByteArray} {offset : Nat} (data : ByteArray)
    (inside : offset ≤ bytes.size) :
    (ByteDevice.writeAt offset data : DeviceM Memory Unit) ⟨bytes⟩ =
      .ok () ⟨overwrite bytes offset data⟩ := by
  change writeAt offset data ⟨bytes⟩ = _
  simp only [writeAt, if_pos inside]

theorem extend_run (bytes : ByteArray) (additional : Nat) :
    (ByteDevice.extend additional : DeviceM Memory Unit) ⟨bytes⟩ =
      .ok () ⟨resize bytes (bytes.size + additional)⟩ :=
  rfl

theorem truncate_run {bytes : ByteArray} {newSize : Nat} (inside : newSize ≤ bytes.size) :
    (ByteDevice.truncate newSize : DeviceM Memory Unit) ⟨bytes⟩ =
      .ok () ⟨resize bytes newSize⟩ := by
  change truncate newSize ⟨bytes⟩ = _
  simp only [truncate, if_pos inside]

theorem size_run (bytes : ByteArray) :
    (ByteDevice.size : DeviceM Memory Nat) ⟨bytes⟩ = .ok bytes.size ⟨bytes⟩ :=
  rfl

end Memory

/-! ## Copying -/

theorem copyChunk_run (bytes : ByteArray) {origin destination length : Nat}
    (originInside : origin + length ≤ bytes.size) (destinationInside : destination ≤ bytes.size) :
    (copyChunk origin destination length : DeviceM Memory Unit) ⟨bytes⟩ =
      .ok () ⟨overwrite bytes destination (bytes.extract origin (origin + length))⟩ := by
  rw [copyChunk, bind_of_ok (Memory.readInto_run originInside),
    Memory.writeAt_run _ destinationInside]

/-- Highest chunk first, nothing is read after it has been overwritten. -/
theorem copyUp_run (buffer : Nat) (positive : 0 < buffer) (source distance remaining : Nat)
    (bytes : ByteArray) (inside : source + remaining + distance ≤ bytes.size) :
    (copyUp buffer positive source distance remaining : DeviceM Memory Unit) ⟨bytes⟩ =
      .ok () ⟨overwrite bytes (source + distance)
        (bytes.extract source (source + remaining))⟩ := by
  induction remaining using Nat.strongRecOn generalizing bytes with
  | ind remaining induction =>
      rw [copyUp]
      split
      · rename_i nothing
        rw [pure_run, nothing, Nat.add_zero, ByteArray.extract_same,
          overwrite_empty (by omega)]
      · rename_i something
        let chunk := min remaining buffer
        let front := source + (remaining - chunk)
        let lower := bytes.extract source front
        let upper := bytes.extract front (front + chunk)
        have lowerSize : lower.size = remaining - chunk := by
          rw [ByteArray.size_extract]
          omega
        have place : source + distance + lower.size = front + distance := by omega
        have stop : front + chunk = source + remaining := by omega
        have room : front + distance ≤ bytes.size := by omega
        have copied := copyChunk_run bytes (show front + chunk ≤ bytes.size by omega) room
        have grown := size_overwrite upper room
        have rest := induction (remaining - chunk) (by omega)
          (overwrite bytes (front + distance) upper) (by omega)
        have unread : (overwrite bytes (front + distance) upper).extract source front = lower :=
          extract_overwrite_of_le upper (by omega) source (by omega)
        rw [bind_of_ok copied, rest, unread, ← place,
          overwrite_overwrite_before lower upper (by omega),
          extract_append_extract bytes (by omega) (by omega), stop]

/-- Lowest chunk first, nothing is read after it has been overwritten. -/
theorem copyDown_run (buffer : Nat) (positive : 0 < buffer)
    (source distance remaining : Nat) (bytes : ByteArray) (room : distance ≤ source)
    (inside : source + remaining ≤ bytes.size) :
    (copyDown buffer positive source distance remaining : DeviceM Memory Unit) ⟨bytes⟩ =
      .ok () ⟨overwrite bytes (source - distance)
        (bytes.extract source (source + remaining))⟩ := by
  induction remaining using Nat.strongRecOn generalizing source bytes with
  | ind remaining induction =>
      rw [copyDown]
      split
      · rename_i nothing
        rw [pure_run, nothing, Nat.add_zero, ByteArray.extract_same,
          overwrite_empty (by omega)]
      · rename_i something
        let chunk := min remaining buffer
        let lower := bytes.extract source (source + chunk)
        let upper := bytes.extract (source + chunk) (source + remaining)
        have lowerSize : lower.size = chunk := by
          rw [ByteArray.size_extract]
          omega
        have place : source + chunk - distance = source - distance + lower.size := by omega
        have below : source - distance ≤ bytes.size := by omega
        have copied := copyChunk_run bytes (show source + chunk ≤ bytes.size by omega) below
        have kept := size_overwrite lower below
        have rest := induction (remaining - chunk) (by omega) (source + chunk)
          (overwrite bytes (source - distance) lower) (by omega) (by omega)
        have stop : source + chunk + (remaining - chunk) = source + remaining := by omega
        have unread : (overwrite bytes (source - distance) lower).extract (source + chunk)
            (source + remaining) = upper :=
          extract_overwrite_of_ge lower (by omega) (by omega) (by omega)
        rw [bind_of_ok copied, rest, stop, unread, place,
          overwrite_overwrite_after lower upper (by omega),
          extract_append_extract bytes (by omega) (by omega)]

/-! ## Shifting -/

/-- Moving the tail up leaves a gap. It holds what stood there before, and zeros past
the old end. -/
theorem shiftTail_up (buffer : Nat) (positive : 0 < buffer) (front back : ByteArray)
    (distance : Nat) :
    (shiftTail buffer positive front.size distance : DeviceM Memory Nat) ⟨front ++ back⟩ =
      .ok back.size ⟨front ++ resize back distance ++ back⟩ := by
  have length : (front ++ back).size - front.size = back.size := by
    rw [ByteArray.size_append]
    omega
  have reached : ¬(front ++ back).size < front.size := by
    rw [ByteArray.size_append]
    omega
  rw [shiftTail, bind_of_ok (Memory.size_run _)]
  simp only [if_neg reached, length]
  cases distance with
  | zero =>
      have noGap : resize back 0 = ByteArray.empty :=
        ByteArray.size_eq_zero_iff.mp (size_resize back 0)
      rw [noGap, ByteArray.append_empty]
      rfl
  | succ distance =>
      let extended := resize (front ++ back) ((front ++ back).size + (distance + 1))
      have extendedSize : extended.size = front.size + back.size + (distance + 1) := by
        rw [size_resize, ByteArray.size_append]
      have tail : extended.extract front.size (front.size + back.size) = back := by
        apply ext_byteAt
        · rw [ByteArray.size_extract]
          omega
        · intro position bound
          rw [ByteArray.size_extract] at bound
          rw [byteAt_extract, if_pos (by omega), byteAt_resize, ByteArray.size_append,
            if_pos (by omega), byteAt_append, if_neg (by omega), Nat.add_sub_cancel_left]
      have copied := copyUp_run buffer positive front.size (distance + 1) back.size extended
        (by omega)
      change (ByteDevice.extend (distance + 1) >>= fun _ => _) (⟨front ++ back⟩ : Memory) = _
      rw [bind_of_ok (Memory.extend_run _ _), bind_of_ok copied, tail, pure_run,
        ← overwrite_resize_append, ← ByteArray.size_append]

/-- Moving the tail down closes the gap over the bytes that it runs over. -/
theorem shiftTail_down (buffer : Nat) (positive : 0 < buffer)
    (front gone back : ByteArray) :
    (shiftTail buffer positive (front.size + gone.size) (-(gone.size : Int)) :
        DeviceM Memory Nat) ⟨front ++ gone ++ back⟩ =
      .ok back.size ⟨front ++ back⟩ := by
  have total : (front ++ gone ++ back).size = front.size + gone.size + back.size := by
    simp only [ByteArray.size_append]
  have length : (front ++ gone ++ back).size - (front.size + gone.size) = back.size := by
    omega
  have reached : ¬(front ++ gone ++ back).size < front.size + gone.size := by omega
  rw [shiftTail, bind_of_ok (Memory.size_run _)]
  simp only [if_neg reached, length]
  cases distance : gone.size with
  | zero =>
      have nothing : gone = ByteArray.empty := ByteArray.size_eq_zero_iff.mp distance
      rw [nothing, ByteArray.append_empty]
      rfl
  | succ below =>
      have tail : (front ++ gone ++ back).extract (front.size + (below + 1))
          (front.size + (below + 1) + back.size) = back := by
        have last := extract_last (front ++ gone) back
        rwa [ByteArray.size_append, distance] at last
      have copied := copyDown_run buffer positive (front.size + (below + 1)) (below + 1)
        back.size (front ++ gone ++ back) (by omega) (by omega)
      have place : front.size + (below + 1) - (below + 1) = front.size := by omega
      have kept : (front ++ gone ++ back).size - (below + 1) = (front ++ back).size := by
        rw [total, ByteArray.size_append]
        omega
      have inside : front.size ≤ (front ++ gone ++ back).size := by omega
      have closed : resize (overwrite (front ++ gone ++ back) front.size back)
          (front ++ back).size = front ++ back := by
        have first : (front ++ gone ++ back).extract 0 front.size = front := by
          rw [ByteArray.append_assoc, ByteArray.extract_append_eq_left rfl]
        rw [overwrite_eq_append, first]
        exact resize_append (front ++ back) _
      change (copyDown buffer positive (front.size + (below + 1)) (below + 1) back.size >>=
        fun _ => _) (⟨front ++ gone ++ back⟩ : Memory) = _
      rw [bind_of_ok copied, tail, place, kept,
        bind_of_ok (Memory.truncate_run (by rw [size_overwrite back inside]; omega)), closed,
        pure_run]

/-- Between what stands before and after it, a part takes on any size. -/
theorem shiftTail_run (buffer : Nat) (positive : 0 < buffer) (front old back : ByteArray)
    (newSize : Nat) :
    ∃ kept : ByteArray, kept.size = newSize ∧
      (shiftTail buffer positive (front.size + old.size) ((newSize : Int) - old.size) :
          DeviceM Memory Nat) ⟨front ++ old ++ back⟩ =
        .ok back.size ⟨front ++ kept ++ back⟩ := by
  by_cases shorter : newSize ≤ old.size
  · let kept := old.extract 0 newSize
    let gone := old.extract newSize old.size
    have whole : kept ++ gone = old := extract_append_extract_size old shorter
    have keptSize : kept.size = newSize := by
      rw [ByteArray.size_extract]
      omega
    have goneSize : gone.size = old.size - newSize := by
      rw [ByteArray.size_extract]
      omega
    refine ⟨kept, keptSize, ?_⟩
    have parts : front ++ kept ++ gone ++ back = front ++ old ++ back := by
      rw [ByteArray.append_assoc (a := front), whole]
    have place : (front ++ kept).size + gone.size = front.size + old.size := by
      rw [ByteArray.size_append]
      omega
    have delta : -(gone.size : Int) = (newSize : Int) - old.size := by omega
    have shifted := shiftTail_down buffer positive (front ++ kept) gone back
    rwa [parts, place, delta] at shifted
  · let gap := resize back (newSize - old.size)
    refine ⟨old ++ gap, ?_, ?_⟩
    · rw [ByteArray.size_append, size_resize]
      omega
    · have delta : ((newSize - old.size : Nat) : Int) = (newSize : Int) - old.size := by omega
      have shifted := shiftTail_up buffer positive (front ++ old) back (newSize - old.size)
      rwa [ByteArray.size_append, delta, ByteArray.append_assoc (c := resize _ _)] at shifted

end PackedRecords
