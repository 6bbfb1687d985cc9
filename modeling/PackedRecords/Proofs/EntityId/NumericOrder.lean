import Mathlib
import PackedRecords.EntityId

/-! # Identifiers as numbers

The order of identifiers, decided by the first byte that differs, is the order of the
numbers that they spell. Sixteen bytes spell the numbers below `2 ^ 128`, each of them once.
-/

namespace PackedRecords

/-! ## Numbers spelled by bytes -/

/-- The number that bytes spell, the most significant first: each byte counts as often as
there are strings of bytes as long as what follows it. -/
def spelledNumber : List UInt8 → Nat
  | [] => 0
  | byte :: rest => byte.toNat * 256 ^ rest.length + spelledNumber rest

theorem spelledNumber_lt (bytes : List UInt8) :
    spelledNumber bytes < 256 ^ bytes.length := by
  induction bytes with
  | nil => exact Nat.one_pos
  | cons byte rest induction =>
      have bounded : byte.toNat + 1 ≤ 256 := byte.toNat_lt
      calc spelledNumber (byte :: rest)
          < byte.toNat * 256 ^ rest.length + 256 ^ rest.length :=
            Nat.add_lt_add_left induction _
        _ = (byte.toNat + 1) * 256 ^ rest.length := (Nat.succ_mul _ _).symm
        _ ≤ 256 * 256 ^ rest.length := Nat.mul_le_mul_right _ bounded
        _ = 256 ^ (byte :: rest).length := (Nat.pow_succ').symm

theorem foldl_eq_spelledNumber (bytes : List UInt8) (start : Nat) :
    bytes.foldl (fun value byte => value * 256 + byte.toNat) start =
      start * 256 ^ bytes.length + spelledNumber bytes := by
  induction bytes generalizing start with
  | nil => exact (Nat.mul_one start).symm
  | cons byte rest induction =>
      rw [List.foldl_cons, induction, spelledNumber, List.length_cons, Nat.pow_succ']
      ring

/-- The last bytes of a number, put together again, are its remainder. -/
theorem spelledNumber_ofFn (number width : Nat) :
    spelledNumber (List.ofFn fun position : Fin width =>
      UInt8.ofNat (number >>> (8 * (width - 1 - position.val)))) = number % 256 ^ width := by
  induction width with
  | zero => exact (Nat.mod_one number).symm
  | succ width induction =>
      -- The bytes behind the first are those of the shorter string, at the same shifts.
      have later (position : Fin width) :
          width + 1 - 1 - position.succ.val = width - 1 - position.val := by
        rw [Fin.val_succ]
        omega
      have power : 2 ^ (8 * width) = 256 ^ width := Nat.pow_mul 2 8 width
      have first : (UInt8.ofNat (number >>> (8 * width))).toNat =
          number / 256 ^ width % 256 := by
        rw [UInt8.toNat_ofNat', Nat.shiftRight_eq_div_pow, power]
      simp only [List.ofFn_succ, spelledNumber, List.length_ofFn, later, induction]
      rw [Fin.val_zero, Nat.add_sub_cancel, Nat.sub_zero, first, Nat.mod_pow_succ, Nat.add_comm,
        Nat.mul_comm]

/-! ## Comparing -/

/-- A digit in front decides before what stands behind it. -/
theorem compare_digits {base high low otherHigh otherLow : Nat} (bounded : low < base)
    (otherBounded : otherLow < base) :
    compare (high * base + low) (otherHigh * base + otherLow) =
      (compare high otherHigh).then (compare low otherLow) := by
  rcases Nat.lt_trichotomy high otherHigh with below | same | above
  · have room : (high + 1) * base ≤ otherHigh * base := Nat.mul_le_mul_right base below
    rw [Nat.succ_mul] at room
    rw [Nat.compare_eq_lt.mpr below, Ordering.lt_then, Nat.compare_eq_lt]
    omega
  · rw [same, Nat.compare_eq_eq.mpr rfl, Ordering.eq_then, Nat.compare_eq_ite_lt,
      Nat.compare_eq_ite_lt]
    simp only [Nat.add_lt_add_iff_left]
  · have room : (otherHigh + 1) * base ≤ high * base := Nat.mul_le_mul_right base above
    rw [Nat.succ_mul] at room
    rw [Nat.compare_eq_gt.mpr above, Ordering.gt_then, Nat.compare_eq_gt]
    omega

/-- Machine numbers of one width are compared as natural numbers. -/
theorem compareOfLessAndEq_toNat {α : Type} [LT α] [DecidableLT α] [DecidableEq α]
    {toNat : α → Nat} (less : ∀ first second, first < second ↔ toNat first < toNat second)
    (injective : Function.Injective toNat) (first second : α) :
    compareOfLessAndEq first second = compareOfLessAndEq (toNat first) (toNat second) := by
  simp only [compareOfLessAndEq, less, injective.eq_iff]

theorem compare_byte_toNat (first second : UInt8) :
    compare first second = compare first.toNat second.toNat :=
  compareOfLessAndEq_toNat (fun _ _ => UInt8.lt_iff_toNat_lt) (fun _ _ => UInt8.toNat_inj.mp)
    first second

theorem compare_half_toNat (first second : UInt64) :
    compare first second = compare first.toNat second.toNat :=
  compareOfLessAndEq_toNat (fun _ _ => UInt64.lt_iff_toNat_lt)
    (fun _ _ => UInt64.toNat_inj.mp) first second

/-- Strings of bytes of one length are in the order of the numbers that they spell. -/
theorem compare_eq_compare_spelledNumber {first second : List UInt8}
    (length : first.length = second.length) :
    compare first second = compare (spelledNumber first) (spelledNumber second) := by
  induction first generalizing second with
  | nil =>
      cases second with
      | nil => rfl
      | cons byte rest => cases length
  | cons byte rest induction =>
      cases second with
      | nil => cases length
      | cons otherByte otherRest =>
          have restLength : rest.length = otherRest.length := Nat.succ.inj length
          have bounded := spelledNumber_lt otherRest
          rw [← restLength] at bounded
          rw [List.compare_cons_cons, induction restLength, compare_byte_toNat, spelledNumber,
            spelledNumber, ← restLength, compare_digits (spelledNumber_lt rest) bounded]

/-! ## Identifiers -/

namespace EntityId

theorem toNat_eq_spelledNumber (id : EntityId) : id.toNat = spelledNumber id.bytes.toList := by
  rw [toNat, foldl_eq_spelledNumber, Nat.zero_mul, Nat.zero_add]

theorem toNat_lt (id : EntityId) : id.toNat < 2 ^ 128 := by
  have bounded := spelledNumber_lt id.bytes.toList
  rw [Vector.length_toList] at bounded
  rw [toNat_eq_spelledNumber]
  exact bounded

theorem compare_toNat (a b : EntityId) : compare a b = compare a.toNat b.toNat := by
  rw [compare_eq_bytes, Vector.compare_eq_compare_toList, toNat_eq_spelledNumber,
    toNat_eq_spelledNumber]
  apply compare_eq_compare_spelledNumber
  rw [Vector.length_toList, Vector.length_toList]

theorem toNat_inj {a b : EntityId} : a.toNat = b.toNat ↔ a = b := by
  rw [← Nat.compare_eq_eq, ← compare_toNat, Std.LawfulEqOrd.compare_eq_iff_eq]

theorem toNat_ofNat (number : Nat) : (ofNat number).toNat = number % 2 ^ 128 := by
  rw [toNat_eq_spelledNumber, ofNat, Vector.toList_ofFn]
  exact spelledNumber_ofFn number 16

theorem toNat_ofNat_of_lt {number : Nat} (bounded : number < 2 ^ 128) :
    (ofNat number).toNat = number := by
  rw [toNat_ofNat, Nat.mod_eq_of_lt bounded]

theorem ofNat_toNat (id : EntityId) : ofNat id.toNat = id :=
  toNat_inj.mp (toNat_ofNat_of_lt id.toNat_lt)

/-- The byte at a place of a number. -/
theorem toNat_get_ofNat (number : Nat) (position : Fin 16) :
    ((ofNat number).bytes.get position).toNat = number / 256 ^ (15 - position.val) % 256 := by
  have power : 2 ^ (8 * (15 - position.val)) = 256 ^ (15 - position.val) := Nat.pow_mul 2 8 _
  rw [ofNat, Vector.get_ofFn, UInt8.toNat_ofNat',
    Nat.shiftRight_eq_div_pow, power]

/-! ## Two halves -/

/-- The halves have no bits in common places. -/
theorem ofHalves_eq_or (most least : UInt64) :
    ofHalves most least = ofNat (most.toNat <<< 64 ||| least.toNat) := by
  rw [ofHalves, Nat.shiftLeft_add_eq_or_of_lt least.toNat_lt]

theorem toNat_ofHalves (most least : UInt64) :
    (ofHalves most least).toNat = most.toNat * 2 ^ 64 + least.toNat := by
  have upper := most.toNat_lt
  have lower := least.toNat_lt
  rw [ofHalves, Nat.shiftLeft_eq]
  exact toNat_ofNat_of_lt (by omega)

theorem compare_ofHalves (most least otherMost otherLeast : UInt64) :
    compare (ofHalves most least) (ofHalves otherMost otherLeast) =
      (compare most otherMost).then (compare least otherLeast) := by
  rw [compare_toNat, toNat_ofHalves, toNat_ofHalves,
    compare_digits least.toNat_lt otherLeast.toNat_lt, compare_half_toNat, compare_half_toNat]

/-! ## Reading from bytes -/

theorem ofByteArray?_eq_some_iff {bytes : ByteArray} {id : EntityId} :
    ofByteArray? bytes = some id ↔ id.toByteArray = bytes := by
  constructor
  · intro read
    rw [ofByteArray?] at read
    split at read
    · cases read
      rfl
    · cases read
  · rintro rfl
    exact ofByteArray?_toByteArray id

theorem exists_ofByteArray?_iff {bytes : ByteArray} :
    (∃ id, ofByteArray? bytes = some id) ↔ bytes.size = 16 := by
  constructor
  · rintro ⟨id, read⟩
    rw [← ofByteArray?_eq_some_iff.mp read, size_toByteArray]
  · intro sixteen
    exact ⟨_, dif_pos sixteen⟩

/-! ## All together -/

/-- The identifiers are the numbers below `2 ^ 128`, in their order. Their bytes are the digits
of these numbers to the base 256, the two halves the digits to the base `2 ^ 64`, so halves are
compared like digits. Sixteen bytes, and no others, are read as the identifier that they are
the bytes of. -/
theorem numeric_order :
    (∀ a b : EntityId,
      (compare a b = .lt ↔ a.toNat < b.toNat) ∧
        (a = b ↔ a.toNat = b.toNat) ∧ (compare a b = .eq ↔ a = b) ∧
        (compare a b = .gt ↔ b.toNat < a.toNat)) ∧
      (∀ id : EntityId, id.toNat < 2 ^ 128 ∧ ofNat id.toNat = id) ∧
      (∀ number : Fin (2 ^ 128), (ofNat number).toNat = number ∧
        ∀ position : Fin 16,
          ((ofNat number).bytes.get position).toNat = number / 256 ^ (15 - position.val) % 256) ∧
      (∀ most least : UInt64,
        ofHalves most least = ofNat (most.toNat <<< 64 ||| least.toNat) ∧
          (ofHalves most least).toNat = most.toNat * 2 ^ 64 + least.toNat) ∧
      (∀ most least otherMost otherLeast : UInt64,
        compare (ofHalves most least) (ofHalves otherMost otherLeast) =
          (compare most otherMost).then (compare least otherLeast)) ∧
      ∀ bytes : ByteArray,
        ((∃ id, ofByteArray? bytes = some id) ↔ bytes.size = 16) ∧
          ∀ id, ofByteArray? bytes = some id ↔ id.toByteArray = bytes := by
  refine ⟨?_, ?_, ?_, ?_, compare_ofHalves, ?_⟩
  · intro a b
    rw [compare_toNat, Nat.compare_eq_lt, Nat.compare_eq_eq, Nat.compare_eq_gt]
    exact ⟨Iff.rfl, toNat_inj.symm, toNat_inj, Iff.rfl⟩
  · intro id
    exact ⟨id.toNat_lt, ofNat_toNat id⟩
  · intro number
    exact ⟨toNat_ofNat_of_lt number.isLt, toNat_get_ofNat number⟩
  · intro most least
    exact ⟨ofHalves_eq_or most least, toNat_ofHalves most least⟩
  · intro bytes
    exact ⟨exists_ofByteArray?_iff, fun id => ofByteArray?_eq_some_iff⟩

end EntityId

end PackedRecords
