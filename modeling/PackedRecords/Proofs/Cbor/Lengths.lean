import PackedRecords.Cbor.Item

/-! # What is read is no longer than its input

Strings and texts are read off the input, and each of them has a head before it. So the
lengths of what was read and its number fit wherever the length of the input fits.
-/

namespace PackedRecords.Cbor

/-! ## Strings -/

theorem length_add_of_takeBytes? {count : Nat} {input taken rest : List UInt8}
    (read : takeBytes? count input = some (taken, rest)) :
    taken.length + rest.length = input.length := by
  simp only [takeBytes?] at read
  split at read
  · cases read
    rw [← List.length_append, List.take_append_drop]
  · cases read

theorem length_add_of_readPiece? {kind : StringKind} {count : Nat}
    {input piece rest : List UInt8}
    (read : readPiece? kind count input = some (piece, rest)) :
    piece.length + rest.length = input.length := by
  rw [readPiece?, Option.filter_eq_some_iff] at read
  exact length_add_of_takeBytes? read.1

/-- Every step takes at least a head off the input and adds at most what follows it. -/
theorem length_add_of_readPieces? {kind : StringKind} {depth : Nat}
    {before : List (List UInt8)} {input bytes rest : List UInt8}
    (read : readPieces? kind depth before input = some (bytes, rest)) :
    bytes.length + rest.length ≤ before.flatten.length + input.length := by
  fun_induction readPieces? kind depth before input with
  | case1 => cases read
  | case2 _ before _ _ taken =>
      cases read
      have head := length_of_readHead? taken
      have same : before.reverse.flatten.length = before.flatten.length := by
        rw [List.length_flatten, List.length_flatten, List.map_reverse, List.sum_reverse]
      omega
  | case3 _ _ _ _ taken _ induction =>
      have head := length_of_readHead? taken
      have further := induction read
      omega
  | case4 => cases read
  | case5 _ _ _ _ _ _ taken _ induction =>
      have head := length_of_readHead? taken
      have further := induction read
      omega
  | case6 => cases read
  | case7 _ _ _ _ _ _ taken _ _ _ _ cut induction =>
      have head := length_of_readHead? taken
      have piece := length_add_of_readPiece? cut
      have further := induction read
      rw [List.flatten_cons, List.length_append] at further
      omega

theorem length_add_of_readString? {kind : StringKind} {length : Option Nat}
    {input bytes rest : List UInt8}
    (read : readString? kind length input = some (bytes, rest)) :
    bytes.length + rest.length ≤ input.length := by
  cases length with
  | none =>
      have bound := length_add_of_readPieces? read
      rwa [List.flatten_nil, List.length_nil, Nat.zero_add] at bound
  | some count => exact Nat.le_of_eq (length_add_of_readPiece? read)

/-! ## Texts -/

theorem toUTF8_of_utf8Text? {bytes : ByteArray} {text : String}
    (read : utf8Text? bytes = some text) : text.toUTF8 = bytes := by
  rw [utf8Text?, String.fromUTF8?] at read
  split at read
  · cases read
    rfl
  · cases read

theorem size_add_of_readText? {input rest : List UInt8} {text : String}
    (read : readText? input = some (text, rest)) :
    text.toUTF8.size + rest.length < input.length := by
  simp only [readText?, Option.bind_eq_bind, Option.bind_eq_some_iff] at read
  rcases read with ⟨⟨_, middle⟩, head, _, _, ⟨bytes, after⟩, string, _, valid, equal⟩
  cases equal
  have before : middle.length < input.length := length_of_readUntagged? head
  have read : bytes.length + after.length ≤ middle.length := length_add_of_readString? string
  have size : text.toUTF8.size = bytes.length := by
    rw [toUTF8_of_utf8Text? valid, ByteArray.size, List.size_toArray]
  change text.toUTF8.size + after.length < input.length
  omega

/-- The least that texts take: their bytes, and one byte more for each of them. -/
def leastSize : List String → Nat
  | [] => 0
  | text :: texts => text.toUTF8.size + 1 + leastSize texts

theorem leastSize_append (texts more : List String) :
    leastSize (texts ++ more) = leastSize texts + leastSize more := by
  induction texts with
  | nil => exact (Nat.zero_add _).symm
  | cons text texts induction =>
      rw [List.cons_append, leastSize, leastSize, induction]
      omega

theorem leastSize_reverse (texts : List String) : leastSize texts.reverse = leastSize texts := by
  induction texts with
  | nil => rfl
  | cons text texts induction =>
      rw [List.reverse_cons, leastSize_append, induction, Nat.add_comm, leastSize, leastSize,
        leastSize, Nat.add_zero]

theorem length_le_leastSize (texts : List String) : texts.length ≤ leastSize texts := by
  induction texts with
  | nil => exact Nat.le_refl _
  | cons text texts induction =>
      rw [List.length_cons, leastSize]
      omega

theorem size_lt_leastSize {text : String} {texts : List String} (member : text ∈ texts) :
    text.toUTF8.size < leastSize texts := by
  induction texts with
  | nil => cases member
  | cons first texts induction =>
      rw [leastSize]
      rcases List.mem_cons.mp member with same | later
      · rw [same]
        omega
      · have bound := induction later
        omega

theorem leastSize_add_of_readElements? {left : Option Nat} {before texts : List String}
    {input rest : List UInt8}
    (read : readElements? left before input = some (texts, rest)) :
    leastSize texts + rest.length ≤ leastSize before + input.length := by
  fun_induction readElements? left before input with
  | case1 _ before _ _ ended =>
      cases read
      have bound := length_of_progress ended
      rw [leastSize_reverse]
      omega
  | case2 => cases read
  | case3 _ _ _ _ _ _ _ taken induction =>
      have text := size_add_of_readText? taken
      have further := induction read
      rw [leastSize] at further
      omega

theorem leastSize_of_readTexts? {input rest : List UInt8} {texts : List String}
    (read : readTexts? input = some (texts, rest)) : leastSize texts ≤ input.length := by
  rw [readTexts?] at read
  split at read
  · next head =>
      have before := length_of_readUntagged? head
      have bound := leastSize_add_of_readElements? read
      change _ ≤ 0 + _ at bound
      omega
  · split at read
    · cases read
      exact Nat.zero_le _
    · cases read
  · cases read

end PackedRecords.Cbor
