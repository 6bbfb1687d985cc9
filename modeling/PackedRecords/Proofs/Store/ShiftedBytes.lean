import PackedRecords.Proofs.Store.TailShift

/-! # The bytes after a shift

Where every byte of a shifted device in memory comes from. The bytes up to the source stay
and the tail is found again at its new place. Above the source a shift up leaves what stood
there, with zeros past the old end; a shift down cuts out the bytes that the tail runs over.
The length of the buffer does not show.
-/

namespace PackedRecords

/-! ## Two parts of a string -/

/-- What stands before a position and what stands from there on, with their sizes. -/
theorem exists_split_at (bytes : ByteArray) {position : Nat} (inside : position ≤ bytes.size) :
    ∃ front back : ByteArray, bytes = front ++ back ∧ front.size = position := by
  have size : (bytes.extract 0 position).size = position := by
    rw [ByteArray.size_extract]
    omega
  exact ⟨_, _, (extract_append_extract_size bytes inside).symm, size⟩

/-- The string with its back moved up: below the new place of the back everything is as
before, and from there on everything comes from `distance` further down. -/
theorem byteAt_gap (front back : ByteArray) (distance position : Nat) :
    byteAt (front ++ resize back distance ++ back) position =
      if position < front.size + distance then byteAt (front ++ back) position
      else byteAt (front ++ back) (position - distance) := by
  simp only [byteAt_append, byteAt_resize, ByteArray.size_append, size_resize]
  by_cases inGap : position < front.size + distance
  · simp only [if_pos inGap]
    split
    · rfl
    · rw [if_pos (by omega)]
  · simp only [if_neg inGap]
    rw [if_neg (by omega)]
    congr 1
    omega

/-! ## Shifts of all kinds -/

/-- A tail that would start past the end is refused. -/
theorem shiftTail_past (buffer : Nat) (positive : 0 < buffer) {bytes : ByteArray} {source : Nat}
    (past : bytes.size < source) (delta : Int) :
    (shiftTail buffer positive source delta : DeviceM Memory Nat) ⟨bytes⟩ =
      .error (.readPastEnd source 0 bytes.size) ⟨bytes⟩ := by
  rw [shiftTail, bind_of_ok (Memory.size_run bytes)]
  simp only [if_pos past]
  rw [bind_of_error (throw_run _)]

/-- A shift up keeps everything below the new place of the tail, zeros past the old end
included, and moves the tail there. -/
theorem shiftTail_grows {bytes : ByteArray} {source : Nat} (inside : source ≤ bytes.size)
    (distance : Nat) :
    ∃ shifted : ByteArray, shifted.size = bytes.size + distance ∧
      (∀ position, byteAt shifted position =
        if position < source + distance then byteAt bytes position
        else byteAt bytes (position - distance)) ∧
      ∀ buffer positive,
        (shiftTail buffer positive source distance : DeviceM Memory Nat) ⟨bytes⟩ =
          .ok (bytes.size - source) ⟨shifted⟩ := by
  rcases exists_split_at bytes inside with ⟨front, back, rfl, rfl⟩
  have tail : (front ++ back).size - front.size = back.size := by
    rw [ByteArray.size_append]
    omega
  have size : (front ++ resize back distance ++ back).size = (front ++ back).size + distance := by
    simp only [ByteArray.size_append, size_resize]
    omega
  rw [tail]
  exact ⟨_, size, byteAt_gap front back distance,
    fun buffer positive => shiftTail_up buffer positive front back distance⟩

/-- A shift down cuts out the bytes in front of the tail. -/
theorem shiftTail_shrinks {bytes : ByteArray} {source : Nat} (inside : source ≤ bytes.size)
    {distance : Nat} (room : distance ≤ source) (buffer : Nat) (positive : 0 < buffer) :
    (shiftTail buffer positive source (-(distance : Int)) : DeviceM Memory Nat) ⟨bytes⟩ =
      .ok (bytes.size - source)
        ⟨bytes.extract 0 (source - distance) ++ bytes.extract source bytes.size⟩ := by
  let front := bytes.extract 0 (source - distance)
  let gone := bytes.extract (source - distance) source
  let back := bytes.extract source bytes.size
  have parts : front ++ gone ++ back = bytes := by
    rw [extract_append_extract bytes (Nat.zero_le _) (Nat.sub_le source distance),
      extract_append_extract_size bytes inside]
  have frontSize : front.size = source - distance := by
    rw [ByteArray.size_extract]
    omega
  have goneSize : gone.size = distance := by
    rw [ByteArray.size_extract]
    omega
  have backSize : back.size = bytes.size - source := by
    rw [ByteArray.size_extract]
    omega
  have place : front.size + gone.size = source := by omega
  have shifted := shiftTail_down buffer positive front gone back
  rwa [parts, place, goneSize, backSize] at shifted

/-- A shift is refused when there is no tail to move, and then nothing has happened.
Otherwise the number of bytes in the tail is returned, and the bytes afterwards are known
from those before, without the length of the buffer. A shift up keeps what stands below the
new place of the tail as far as there is something, fills up with zeros, and has the tail
behind them; a shift down leaves the bytes before the new place of the tail, and the tail. -/
theorem shiftTail_exactly (bytes : ByteArray) (source : Nat) (delta : Int)
    (target : 0 ≤ source + delta) :
    (bytes.size < source → ∀ buffer positive,
      (shiftTail buffer positive source delta : DeviceM Memory Nat) ⟨bytes⟩ =
        .error (.readPastEnd source 0 bytes.size) ⟨bytes⟩) ∧
    (source ≤ bytes.size → ∃ shifted : ByteArray,
      (∀ buffer positive,
        (shiftTail buffer positive source delta : DeviceM Memory Nat) ⟨bytes⟩ =
          .ok (bytes.size - source) ⟨shifted⟩) ∧
      (∀ distance : Nat, delta = distance →
        shifted.size = bytes.size + distance ∧
        (∀ position, position < min bytes.size (source + distance) →
          byteAt shifted position = byteAt bytes position) ∧
        (∀ position, bytes.size ≤ position → position < source + distance →
          byteAt shifted position = 0) ∧
        ∀ position, source + distance ≤ position → position < shifted.size →
          byteAt shifted position = byteAt bytes (position - distance)) ∧
      ∀ distance : Nat, delta = -distance →
        shifted = bytes.extract 0 (source - distance) ++ bytes.extract source bytes.size) := by
  constructor
  · intro past buffer positive
    exact shiftTail_past buffer positive past delta
  · intro inside
    by_cases growing : 0 ≤ delta
    · rcases Int.eq_ofNat_of_zero_le growing with ⟨distance, rfl⟩
      rcases shiftTail_grows inside distance with ⟨shifted, size, moved, ran⟩
      refine ⟨shifted, ran, ?_, ?_⟩
      · intro other same
        cases Int.ofNat.inj same
        refine ⟨size, ?_, ?_, ?_⟩
        · intro position below
          rw [moved, if_pos (by omega)]
        · intro position past inGap
          rw [moved, if_pos inGap, byteAt_of_size_le past]
        · intro position above _
          rw [moved, if_neg (by omega)]
      · intro other same
        -- Only a shift by nothing goes both ways.
        have nothing : other = 0 := by omega
        have down := shiftTail_shrinks inside (Nat.zero_le source) 1 Nat.one_pos
        have up := ran 1 Nat.one_pos
        rw [same, nothing] at up
        rw [up] at down
        rw [nothing]
        cases down
        rfl
    · rcases Int.exists_eq_neg_ofNat (Int.le_of_lt (Int.not_le.mp growing)) with ⟨distance, rfl⟩
      have room : distance ≤ source := by omega
      refine ⟨_, shiftTail_shrinks inside room, ?_, ?_⟩
      · intro other same
        omega
      · intro other same
        have sameDistance : distance = other := by omega
        rw [sameDistance]

/-- One byte moves up by three, whatever the buffer: it stays in its old place as well,
and the gap past the old end holds zeros. -/
theorem shiftTail_exactly_gap :
    (0 : Int) ≤ (2 : Nat) + 3 ∧
      (shiftTail 1 (by decide) 2 3 : DeviceM Memory Nat) ⟨⟨#[1, 2, 3]⟩⟩ =
        .ok 1 ⟨⟨#[1, 2, 3, 0, 0, 3]⟩⟩ ∧
      (shiftTail 9 (by decide) 2 3 : DeviceM Memory Nat) ⟨⟨#[1, 2, 3]⟩⟩ =
        .ok 1 ⟨⟨#[1, 2, 3, 0, 0, 3]⟩⟩ := by
  have target : (0 : Int) ≤ (2 : Nat) + 3 := by decide
  rcases (shiftTail_exactly ⟨#[1, 2, 3]⟩ 2 3 target).2 (by decide) with ⟨shifted, ran, up, _⟩
  rcases up 3 rfl with ⟨size, below, inGap, above⟩
  have whole : shifted = ⟨#[1, 2, 3, 0, 0, 3]⟩ := by
    apply ext_byteAt size
    intro position bound
    have bounded : position < 6 := Nat.lt_of_lt_of_eq bound size
    match position with
    | 0 | 1 | 2 => exact below _ (by decide)
    | 3 | 4 => exact inGap _ (by decide) (by decide)
    | 5 => exact above _ (by decide) (by rw [size]; decide)
    | position + 6 => omega
  rw [whole] at ran
  exact ⟨target, ran 1 _, ran 9 _⟩

end PackedRecords
