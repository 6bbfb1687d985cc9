import PackedRecords.Proofs.Record.Header

/-! # The last record of a key

Of several records of one key in a list the last one counts. `lastOffset?` and
`lastPayload?` find it, `replaceLast` and `eraseLast` change it. A list that mentions
a key is what stands before the key's last record, that record, and what follows
without the key, and each of the four functions is read off these parts.
-/

namespace PackedRecords

/-! ## Images -/

theorem image_eq_append (records : List Record) (front : ByteArray) :
    records.foldl (fun bytes record => bytes ++ record.encode) front =
      front ++ image records := by
  induction records generalizing front with
  | nil => exact ByteArray.append_empty.symm
  | cons record rest induction =>
      rw [image, List.foldl_cons, List.foldl_cons, induction, induction (_ ++ _),
        ByteArray.empty_append, ByteArray.append_assoc]

@[simp] theorem image_nil : image [] = ByteArray.empty :=
  rfl

theorem image_cons (record : Record) (rest : List Record) :
    image (record :: rest) = record.encode ++ image rest := by
  rw [image, List.foldl_cons, ByteArray.empty_append, image_eq_append]

theorem image_append (front back : List Record) :
    image (front ++ back) = image front ++ image back := by
  rw [image, List.foldl_append, image_eq_append]
  rfl

theorem image_split (before : List Record) (record : Record) (after : List Record) :
    image (before ++ record :: after) = image before ++ record.encode ++ image after := by
  rw [image_append, image_cons, ByteArray.append_assoc]

theorem size_image_cons (record : Record) (rest : List Record) :
    (image (record :: rest)).size = record.size + (image rest).size := by
  rw [image_cons, ByteArray.size_append, Record.size_encode]

theorem size_image_append (front back : List Record) :
    (image (front ++ back)).size = (image front).size + (image back).size := by
  rw [image_append, ByteArray.size_append]

/-- The records whose payloads a limit allows. -/
def AllWithin (limit : Nat) (records : List Record) : Prop :=
  ∀ record ∈ records, record.payload.size ≤ limit

instance (limit : Nat) (records : List Record) : Decidable (AllWithin limit records) :=
  inferInstanceAs (Decidable (∀ record ∈ records, record.payload.size ≤ limit))

/-- The keys of records in their order. -/
def keysOf (records : List Record) : List EntityId :=
  records.map Record.key

@[simp] theorem keysOf_nil : keysOf [] = [] :=
  rfl

@[simp] theorem keysOf_cons (record : Record) (rest : List Record) :
    keysOf (record :: rest) = record.key :: keysOf rest :=
  rfl

@[simp] theorem keysOf_append (front back : List Record) :
    keysOf (front ++ back) = keysOf front ++ keysOf back :=
  List.map_append

/-! ## Finding and changing the last record of a key -/

/-- Where the last record of a key starts if the records are laid out from `start` on. -/
def lastOffset? (key : EntityId) (start : Nat) : List Record → Option Nat
  | [] => none
  | record :: rest =>
      (lastOffset? key (start + record.size) rest).or
        (if record.key = key then some start else none)

/-- The payload of the last record of a key. -/
def lastPayload? (key : EntityId) : List Record → Option ByteArray
  | [] => none
  | record :: rest =>
      (lastPayload? key rest).or (if record.key = key then some record.payload else none)

/-- Another payload in the last record of a key. -/
def replaceLast (key : EntityId) (payload : ByteArray) : List Record → List Record
  | [] => []
  | record :: rest =>
      if key ∈ keysOf rest then record :: replaceLast key payload rest
      else if record.key = key then ⟨key, payload⟩ :: rest
      else record :: rest

/-- The records without the last one of a key. -/
def eraseLast (key : EntityId) : List Record → List Record
  | [] => []
  | record :: rest =>
      if key ∈ keysOf rest then record :: eraseLast key rest
      else if record.key = key then rest
      else record :: rest

/-- A list that mentions a key is taken apart at the key's last record. -/
theorem exists_last_split {key : EntityId} {records : List Record}
    (member : key ∈ keysOf records) :
    ∃ before record after, records = before ++ record :: after ∧ record.key = key ∧
      key ∉ keysOf after := by
  induction records with
  | nil => cases member
  | cons head rest induction =>
      by_cases later : key ∈ keysOf rest
      · rcases induction later with ⟨before, record, after, split, same, last⟩
        exact ⟨head :: before, record, after, by rw [split, List.cons_append], same, last⟩
      · rcases List.mem_cons.mp member with same | member
        · exact ⟨[], head, rest, rfl, same.symm, later⟩
        · exact absurd member later

/-! ## Offsets -/

theorem lastOffset?_append (key : EntityId) (start : Nat) (front back : List Record) :
    lastOffset? key start (front ++ back) =
      (lastOffset? key (start + (image front).size) back).or
        (lastOffset? key start front) := by
  induction front generalizing start with
  | nil => simp [lastOffset?]
  | cons record rest induction =>
      rw [List.cons_append, lastOffset?, lastOffset?, induction, size_image_cons,
        Nat.add_assoc, Option.or_assoc]

theorem lastOffset?_eq_none_iff {key : EntityId} {start : Nat} {records : List Record} :
    lastOffset? key start records = none ↔ key ∉ keysOf records := by
  induction records generalizing start with
  | nil => simp [lastOffset?]
  | cons record rest induction =>
      rw [lastOffset?, Option.or_eq_none_iff, induction, keysOf_cons, List.mem_cons,
        not_or, and_comm]
      refine and_congr_left fun _ => ?_
      by_cases same : record.key = key
      · simp [same]
      · simp [same, Ne.symm same]

/-- The last record of a key starts within the records. -/
theorem lastOffset?_bounds {key : EntityId} {start offset : Nat} {records : List Record}
    (found : lastOffset? key start records = some offset) :
    start ≤ offset ∧ offset < start + (image records).size := by
  induction records generalizing start with
  | nil => cases found
  | cons record rest induction =>
      have positive := record.size_pos
      rw [lastOffset?, Option.or_eq_some_iff] at found
      rw [size_image_cons]
      rcases found with later | ⟨_, here⟩
      · have bounds := induction later
        omega
      · split at here
        · cases here
          omega
        · cases here

/-- Records that start further up have their last records further up. -/
theorem lastOffset?_add (key : EntityId) (start distance : Nat) (records : List Record) :
    lastOffset? key (start + distance) records =
      (lastOffset? key start records).map (· + distance) := by
  induction records generalizing start with
  | nil => rfl
  | cons record rest induction =>
      have place : start + distance + record.size = start + record.size + distance := by
        omega
      rw [lastOffset?, lastOffset?, place, induction, Option.map_or]
      split <;> rfl

section Split

variable {key : EntityId} {record : Record} {before after : List Record}

theorem lastOffset?_split (same : record.key = key) (last : key ∉ keysOf after)
    (start : Nat) :
    lastOffset? key start (before ++ record :: after) =
      some (start + (image before).size) := by
  rw [lastOffset?_append, lastOffset?, lastOffset?_eq_none_iff.mpr last, if_pos same]
  rfl

theorem lastOffset?_eq_some_iff {start offset : Nat} {records : List Record} :
    lastOffset? key start records = some offset ↔
      ∃ before record after, records = before ++ record :: after ∧ record.key = key ∧
        key ∉ keysOf after ∧ offset = start + (image before).size := by
  constructor
  · intro found
    by_cases member : key ∈ keysOf records
    · rcases exists_last_split member with ⟨before, record, after, split, same, last⟩
      rw [split, lastOffset?_split same last] at found
      exact ⟨before, record, after, split, same, last, (Option.some.inj found).symm⟩
    · rw [lastOffset?_eq_none_iff.mpr member] at found
      cases found
  · intro ⟨before, record, after, split, same, last, place⟩
    rw [split, lastOffset?_split same last, place]

/-! ## Payloads -/

theorem lastPayload?_append (key : EntityId) (front back : List Record) :
    lastPayload? key (front ++ back) =
      (lastPayload? key back).or (lastPayload? key front) := by
  induction front with
  | nil => simp [lastPayload?]
  | cons record rest induction =>
      rw [List.cons_append, lastPayload?, lastPayload?, induction, Option.or_assoc]

theorem lastPayload?_eq_none_iff {records : List Record} :
    lastPayload? key records = none ↔ key ∉ keysOf records := by
  induction records with
  | nil => simp [lastPayload?]
  | cons record rest induction =>
      rw [lastPayload?, Option.or_eq_none_iff, induction, keysOf_cons, List.mem_cons,
        not_or, and_comm]
      refine and_congr_left fun _ => ?_
      by_cases same : record.key = key
      · simp [same]
      · simp [same, Ne.symm same]

theorem mem_keysOf_of_lastPayload? {records : List Record} {payload : ByteArray}
    (found : lastPayload? key records = some payload) : key ∈ keysOf records := by
  apply Decidable.byContradiction
  intro missing
  rw [lastPayload?_eq_none_iff.mpr missing] at found
  cases found

theorem lastPayload?_split (same : record.key = key) (last : key ∉ keysOf after) :
    lastPayload? key (before ++ record :: after) = some record.payload := by
  rw [lastPayload?_append, lastPayload?, lastPayload?_eq_none_iff.mpr last, if_pos same]
  rfl

/-! ## Changes -/

theorem replaceLast_split (same : record.key = key) (last : key ∉ keysOf after)
    (payload : ByteArray) :
    replaceLast key payload (before ++ record :: after) =
      before ++ ⟨key, payload⟩ :: after := by
  induction before with
  | nil => rw [List.nil_append, replaceLast, if_neg last, if_pos same, List.nil_append]
  | cons head rest induction =>
      have later : key ∈ keysOf (rest ++ record :: after) := by simp [same]
      rw [List.cons_append, replaceLast, if_pos later, induction, List.cons_append]

theorem eraseLast_split (same : record.key = key) (last : key ∉ keysOf after) :
    eraseLast key (before ++ record :: after) = before ++ after := by
  induction before with
  | nil => rw [List.nil_append, eraseLast, if_neg last, if_pos same, List.nil_append]
  | cons head rest induction =>
      have later : key ∈ keysOf (rest ++ record :: after) := by simp [same]
      rw [List.cons_append, eraseLast, if_pos later, induction, List.cons_append]

end Split

end PackedRecords
