import PackedRecords.Proofs.Cbor.RoundTrip
import PackedRecords.Roles.RoleSet

/-! # Stored role sets

The granted roles of a role set are read back from its stored form; the other parts
come from the baseline.
-/

namespace PackedRecords.RoleSet

theorem readPairs?_ended (found : Option (List String)) (input : List UInt8) :
    readPairs? (some 0) found input = found := by
  rw [readPairs?]
  simp only [Cbor.progress]

/-- The one pair of a stored role set. -/
theorem readPairs?_granted {input rest after : List UInt8} {texts : List String}
    (key : Cbor.readKey? input = some (grantedKey.toUTF8.data.toList, rest))
    (values : Cbor.readTexts? rest = some (texts, after)) :
    readPairs? (some 1) none input = some texts := by
  rw [readPairs?]
  simp only [Cbor.progress]
  split
  · next missing =>
      rw [key] at missing
      cases missing
  · next found =>
      rw [key] at found
      cases found
      rw [if_pos rfl, if_neg (by simp)]
      split
      · next missing =>
          rw [values] at missing
          cases missing
      · next found =>
          rw [values] at found
          cases found
          exact readPairs?_ended _ _

/-- The number of the names and their lengths fit into eight bytes, as does every length
of something that is held in memory. -/
structure Addressable (names : RoleNames) : Prop where
  size : names.size < 2 ^ 64
  each : ∀ name ∈ names, name.toUTF8.size < 2 ^ 64

theorem decodeGranted?_encodeGranted {granted : RoleNames} (addressable : Addressable granted) :
    decodeGranted? (encodeGranted granted) = some granted.toList := by
  let texts := granted.toList
  have size : granted.size = texts.length := Std.ExtTreeSet.length_toList.symm
  have form : encodeGranted granted = Cbor.encodeHead 5 1 ++ (Cbor.encodeText grantedKey ++
      (Cbor.encodeArrayHead texts.length ++ texts.flatMap Cbor.encodeText)) := by
    rw [encodeGranted, size, Cbor.encodeMapHead, List.append_assoc, List.append_assoc]
  have head := Cbor.readUntagged?_of_not_tag
    (Cbor.readHead?_encodeHead (show 5 < 7 by decide) (show 1 < 2 ^ 64 by decide)
      (Cbor.encodeText grantedKey ++ (Cbor.encodeArrayHead texts.length ++
        texts.flatMap Cbor.encodeText)))
    (by simp [Cbor.withArgument])
  have key := Cbor.readKey?_encodeText (show grantedKey.toUTF8.size ≤ Cbor.keyLimit by decide)
    (Cbor.encodeArrayHead texts.length ++ texts.flatMap Cbor.encodeText)
  have eachShort : ∀ text ∈ texts, text.toUTF8.size < 2 ^ 64 := by
    intro text member
    exact addressable.each text (Std.ExtTreeSet.mem_toList.mp member)
  have few : texts.length < 2 ^ 64 := size ▸ addressable.size
  have values := Cbor.readTexts?_encodeText eachShort few []
  rw [List.append_nil] at values
  rw [decodeGranted?, form, head]
  exact readPairs?_granted key values

/-- A short stored form has room for few and short names only. -/
theorem addressable_of_short {granted : RoleNames}
    (short : (encodeGranted granted).length < 2 ^ 64) : Addressable granted := by
  rcases Cbor.lengths_le_of_encodeText granted.toList with ⟨few, shortTexts⟩
  have total : (granted.toList.flatMap Cbor.encodeText).length ≤
      (encodeGranted granted).length := by
    rw [encodeGranted, List.length_append]
    exact Nat.le_add_left ..
  have size : granted.size = granted.toList.length := Std.ExtTreeSet.length_toList.symm
  refine ⟨by omega, ?_⟩
  intro name member
  have bound := shortTexts name (Std.ExtTreeSet.mem_toList.mpr member)
  omega

theorem ofList_toList (granted : RoleNames) : .ofList granted.toList = granted := by
  apply Std.ExtTreeSet.ext_mem
  intro role
  rw [Std.ExtTreeSet.mem_ofList, List.contains_iff_mem, Std.ExtTreeSet.mem_toList]

/-- What was encoded is decoded again, in line with the baseline. -/
theorem decode_encode {roles : RoleSet} {payload : ByteArray}
    (encoded : codec.encode roles = .ok payload) (addressable : Addressable roles.granted)
    (key : EntityId) (baseline : List String) :
    codec.decode key payload baseline = .ok (reconcile baseline ⟨roles.granted, ∅, 0⟩) := by
  cases encoded
  have read := decodeGranted?_encodeGranted addressable
  change decode key _ baseline = _
  simp only [decode, read, ofList_toList]

theorem addressable_of_encode {roles : RoleSet} {payload : ByteArray}
    (encoded : codec.encode roles = .ok payload) (short : payload.size < 2 ^ 64) :
    Addressable roles.granted := by
  cases encoded
  rw [ByteArray.size, List.size_toArray] at short
  exact addressable_of_short short

/-- The record in which the given roles are granted. -/
def recordOf (granted : List String) : ByteArray :=
  ⟨(encodeGranted (.ofList granted)).toArray⟩

theorem encode_recordOf (granted : List String) :
    codec.encode ⟨.ofList granted, ∅, 0⟩ = .ok (recordOf granted) :=
  rfl

end PackedRecords.RoleSet
