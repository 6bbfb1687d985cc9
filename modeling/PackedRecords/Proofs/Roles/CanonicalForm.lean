import PackedRecords.Proofs.Cbor.Lengths
import PackedRecords.Proofs.Roles.StoredForm

/-! # One stored form for each set of granted roles

A role set is written in one form, which has the granted roles and nothing else. Reading
also takes other forms; whatever it takes is written again in the one form, and that is
read as the same roles.
-/

namespace PackedRecords.RoleSet

/-! ## What is read fits into lengths -/

theorem leastSize_of_readPairs? {left : Option Nat} {found : Option (List String)}
    {input : List UInt8} {texts : List String} {bound : Nat}
    (short : input.length ≤ bound) (known : ∀ names, found = some names →
      Cbor.leastSize names ≤ bound)
    (read : readPairs? left found input = some texts) : Cbor.leastSize texts ≤ bound := by
  fun_induction readPairs? left found input with
  | case1 => exact known texts read
  | case2 => cases read
  | case3 => cases read
  | case4 => cases read
  | case5 _ _ _ _ _ _ _ names rest values key induction =>
      have before := Cbor.length_of_readKey? key
      have fits := Cbor.leastSize_of_readTexts? values
      have after := Cbor.length_of_readTexts? values
      refine induction (by omega) ?_ read
      intro others same
      cases same
      omega
  | case6 => cases read
  | case7 _ _ _ _ _ _ _ key _ _ skipped induction =>
      have before := Cbor.length_of_readKey? key
      have after := Cbor.length_of_skipItem? skipped
      exact induction (by omega) known read

theorem leastSize_of_decodeGranted? {input : List UInt8} {texts : List String}
    (decoded : decodeGranted? input = some texts) : Cbor.leastSize texts ≤ input.length := by
  rw [decodeGranted?] at decoded
  split at decoded
  · next head =>
      have before := Cbor.length_of_readUntagged? head
      refine leastSize_of_readPairs? (Nat.le_of_lt before) ?_ decoded
      intro names impossible
      cases impossible
  · cases decoded

theorem addressable_ofList {texts : List String} (short : Cbor.leastSize texts < 2 ^ 64) :
    Addressable (.ofList texts) := by
  constructor
  · have fewer : (Std.ExtTreeSet.ofList texts).size ≤ texts.length :=
      Std.ExtTreeSet.size_ofList_le
    have few := Cbor.length_le_leastSize texts
    omega
  · intro name member
    have listed : name ∈ texts := by
      rwa [Std.ExtTreeSet.mem_ofList, List.contains_iff_mem] at member
    have bound := Cbor.size_lt_leastSize listed
    omega

theorem addressable_of_decode {key : EntityId} {stored : ByteArray} {baseline : List String}
    {decoded : RoleSet} (accepted : codec.decode key stored baseline = .ok decoded)
    (short : stored.size < 2 ^ 64) :
    Addressable decoded.granted ∧ decoded = ⟨decoded.granted, .ofList baseline, 1⟩ := by
  change decode key stored baseline = .ok decoded at accepted
  rw [decode] at accepted
  split at accepted
  · next texts read =>
      cases accepted
      have bound : Cbor.leastSize texts ≤ stored.size := leastSize_of_decodeGranted? read
      exact ⟨addressable_ofList (by omega), rfl⟩
  · cases accepted

/-! ## The stored form -/

theorem encodeGranted_injective {first second : RoleNames} (firstFits : Addressable first)
    (secondFits : Addressable second) (same : encodeGranted first = encodeGranted second) :
    first = second := by
  have lists : some first.toList = some second.toList := by
    rw [← decodeGranted?_encodeGranted firstFits, same, decodeGranted?_encodeGranted secondFits]
  rw [← ofList_toList first, Option.some.inj lists, ofList_toList]

theorem encode_eq_iff {first second : RoleSet} (firstFits : Addressable first.granted)
    (secondFits : Addressable second.granted) :
    codec.encode first = codec.encode second ↔ first.granted = second.granted := by
  constructor
  · intro same
    refine encodeGranted_injective firstFits secondFits ?_
    exact congrArg (fun payload : ByteArray => payload.data.toList) (Except.ok.inj same)
  · intro same
    change Except.ok (⟨(encodeGranted first.granted).toArray⟩ : ByteArray) = _
    rw [same]
    rfl

/-- Role sets with lengths that fit have a stored form, which is read back as the granted
roles with everything else from the baseline, and have the same stored form exactly if the
same roles are granted. Whatever else is accepted as a stored form is read as what the
stored form of the value read is read as, and that stored form is not changed by storing
it again. -/
theorem stored_form_canonical :
    (∀ roles : RoleSet, Addressable roles.granted →
      ∃ payload, codec.encode roles = .ok payload ∧
        (∀ key baseline,
          codec.decode key payload baseline = .ok ⟨roles.granted, .ofList baseline, 1⟩) ∧
        ∀ other : RoleSet, Addressable other.granted →
          (codec.encode other = .ok payload ↔ other.granted = roles.granted)) ∧
      ∀ stored : ByteArray, stored.size < 2 ^ 64 →
        ∀ key baseline decoded, codec.decode key stored baseline = .ok decoded →
          ∃ payload, codec.encode decoded = .ok payload ∧
            codec.decode key payload baseline = .ok decoded ∧
            ∀ again, codec.decode key payload baseline = .ok again →
              codec.encode again = .ok payload := by
  constructor
  · intro roles fits
    exact ⟨_, rfl, decode_encode rfl fits, fun other otherFits => encode_eq_iff otherFits fits⟩
  · intro stored short key baseline decoded accepted
    rcases addressable_of_decode accepted short with ⟨fits, form⟩
    have back : codec.decode key ⟨(encodeGranted decoded.granted).toArray⟩ baseline =
        .ok decoded := by
      rw [decode_encode rfl fits key baseline, form]
      rfl
    refine ⟨_, rfl, back, ?_⟩
    intro again read
    rw [back] at read
    cases read
    rfl

/-- Lengths left open, names out of order and one of them twice: what is stored again is
the shorter form. -/
theorem stored_form_canonical_open_lengths :
    let stored : ByteArray := ⟨#[0xBF, 0x67, 0x67, 0x72, 0x61, 0x6E, 0x74, 0x65, 0x64, 0x9F,
      0x61, 0x62, 0x61, 0x61, 0x61, 0x62, 0xFF, 0xFF]⟩
    let payload : ByteArray := ⟨#[0xA1, 0x67, 0x67, 0x72, 0x61, 0x6E, 0x74, 0x65, 0x64, 0x82,
      0x61, 0x61, 0x61, 0x62]⟩
    stored.size < 2 ^ 64 ∧ Addressable (.ofList ["a", "b"]) ∧
      codec.decode (.ofPool 1) payload ["c"] =
        .ok ⟨.ofList ["a", "b"], .ofList ["c"], 1⟩ ∧
      ∃ decoded, codec.decode (.ofPool 1) stored ["c"] = .ok decoded ∧
        codec.encode decoded = .ok payload ∧
        codec.decode (.ofPool 1) payload ["c"] = .ok decoded := by
  intro stored payload
  have short : stored.size < 2 ^ 64 := by decide
  have fits : Addressable (.ofList ["a", "b"]) := addressable_ofList (by decide)
  have written : encodeGranted (.ofList ["a", "b"]) = payload.data.toList := by decide +kernel
  have rewritten : encodeGranted (.ofList ["b", "a", "b"]) = payload.data.toList := by
    decide +kernel
  have read : decodeGranted? stored.data.toList = some ["b", "a", "b"] := by decide +kernel
  have accepted : codec.decode (.ofPool 1) stored ["c"] =
      .ok ⟨.ofList ["b", "a", "b"], .ofList ["c"], 1⟩ := by
    change decode (.ofPool 1) stored ["c"] = _
    rw [decode, read]
    rfl
  clear_value stored
  rcases stored_form_canonical with ⟨stores, accepts⟩
  rcases stores ⟨.ofList ["a", "b"], ∅, 0⟩ fits with ⟨first, encoded, back, _⟩
  rcases accepts stored short (.ofPool 1) ["c"] _ accepted with ⟨second, again, readAgain, _⟩
  have firstIs : first = payload := by
    cases encoded
    exact congrArg (fun bytes : List UInt8 => (⟨bytes.toArray⟩ : ByteArray)) written
  have secondIs : second = payload := by
    cases again
    exact congrArg (fun bytes : List UInt8 => (⟨bytes.toArray⟩ : ByteArray)) rewritten
  rw [firstIs] at back
  rw [secondIs] at again readAgain
  exact ⟨short, fits, back _ _, _, accepted, again, readAgain⟩

end PackedRecords.RoleSet
