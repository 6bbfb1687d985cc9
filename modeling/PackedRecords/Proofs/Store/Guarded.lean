import PackedRecords.Proofs.Device.Guarded

/-! # No fault on a damaged store

The operations of a store with a guard before every sum of positions and lengths, every
conversion to a narrower number and every move of an index entry. Entries are moved by
addition that wraps. On any store with few enough bytes and low enough offsets every guard
holds, also if the index does not fit the bytes and whichever calls are refused: what is
read back of a length is limited before it is used, and a shift looks at the size before it
moves anything.
-/

namespace PackedRecords

/-- Where an offset comes to lie by addition that wraps. -/
def wrappingAdd (offset : Nat) (delta : Int) : Nat :=
  ((offset + delta) % wordRange).toNat

def Index.wrappingShiftFrom (index : Index) (source : Nat) (delta : Int) : Index :=
  index.map fun _ offset => if source ≤ offset then wrappingAdd offset delta else offset

/-- An entry that wraps when it is moved, or comes to lie before all that is moved. -/
def Index.shiftFault? (index : Index) (source : Nat) (delta : Int) : Option Fault :=
  if ∀ entry ∈ index.toList, source ≤ entry.2 →
      0 ≤ entry.2 + delta ∧ entry.2 + delta < wordRange ∧
        source + delta ≤ wrappingAdd entry.2 delta then none
  else some .wraparound

/-- Numbers with a sign lie between these. -/
def signedRange : Nat := 2 ^ 63

namespace Guarded

variable {δ : Type}

def onDevice {α : Type} (action : Guarded DeviceError δ α) : Guarded StoreError (Store δ) α :=
  Store.onDevice action

variable [ByteDevice δ] [FaithfulDevice δ]

def readLength (offset : Nat) : Guarded StoreError (Store δ) UInt32 := do
  assure (offset + keySize < wordRange) .overflow
  let bytes ← onDevice (readInto (offset + keySize) lengthSize)
  return readBigEndian32 bytes 0

def readValidLength (offset : Nat) : Guarded StoreError (Store δ) Nat := do
  let length ← readLength offset
  let limit ← plainly (Store.view (·.config.payloadLimit))
  plainly (Store.expectLength offset (validateLength length limit))

def shiftAfter (source : Nat) (delta : Int) : Guarded StoreError (Store δ) Nat := do
  let config ← plainly (Store.view (·.config))
  let moved ← onDevice
    (shiftTail config.shiftBufferLength config.shiftBufferLength_pos source delta)
  stopAt fun store => store.index.shiftFault? source delta
  plainly (Store.reindex (·.wrappingShiftFrom source delta))
  return moved

def get (key : EntityId) : Guarded StoreError (Store δ) (Option ByteArray) := do
  plainly (Store.count Stats.countLookup)
  plainly Store.requireOpen
  match ← plainly (Store.offset? key) with
  | none => return none
  | some offset =>
      let length ← readLength offset
      assure (offset + headerSize < wordRange) .overflow
      let payload ← onDevice (readAt (offset + headerSize) length.toNat)
      plainly (Store.count (Stats.countRead length.toNat))
      return some payload

def append (key : EntityId) (payload : ByteArray) : Guarded StoreError (Store δ) Unit := do
  let offset ← onDevice (plainly ByteDevice.size)
  let header : Header := ⟨key, UInt32.ofNat payload.size⟩
  onDevice (writeAt offset header.encode)
  assure (offset + headerSize < wordRange) .overflow
  onDevice (writeAt (offset + headerSize) payload)
  plainly (Store.reindex (·.insert key offset))
  plainly (Store.count (Stats.countAppend (headerSize + payload.size)))

def update (offset : Nat) (payload : ByteArray) : Guarded StoreError (Store δ) Unit := do
  let length ← readValidLength offset
  if length = payload.size then
    assure (offset + headerSize < wordRange) .overflow
    onDevice (writeAt (offset + headerSize) payload)
    plainly (Store.count (Stats.countInPlaceUpdate payload.size))
  else
    assure (offset + headerSize < wordRange) .overflow
    assure (offset + headerSize + length < wordRange) .overflow
    let delta := (payload.size - length : Int)
    assure (-signedRange ≤ delta ∧ delta < signedRange) .overflow
    let moved ← shiftAfter (offset + headerSize + length) delta
    plainly (Store.count (Stats.countShift moved))
    assure (offset + keySize < wordRange) .overflow
    onDevice (writeAt (offset + keySize) (bigEndian32 (UInt32.ofNat payload.size)))
    assure (offset + headerSize < wordRange) .overflow
    onDevice (writeAt (offset + headerSize) payload)
    plainly (Store.count (Stats.countShiftedUpdate (headerSize + payload.size)))

def put (key : EntityId) (payload : ByteArray) : Guarded StoreError (Store δ) Unit := do
  let limit ← plainly (Store.view (·.config.payloadLimit))
  if limit < payload.size then
    plainly (throw (.payloadTooLarge payload.size limit))
  assure (payload.size < UInt32.size) .overflow
  assure (headerSize + payload.size < wordRange) .overflow
  plainly Store.requireOpen
  match ← plainly (Store.offset? key) with
  | none => append key payload
  | some offset => update offset payload
  plainly Store.syncIfConfigured

def remove (key : EntityId) : Guarded StoreError (Store δ) Bool := do
  plainly Store.requireOpen
  match ← plainly (Store.offset? key) with
  | none => return false
  | some offset =>
      plainly (Store.reindex (·.erase key))
      let length ← readValidLength offset
      assure (headerSize + length < wordRange) .overflow
      let recordSize := headerSize + length
      assure (offset + recordSize < wordRange) .overflow
      assure (recordSize < signedRange) .overflow
      let moved ← shiftAfter (offset + recordSize) (-(recordSize : Int))
      plainly Store.syncIfConfigured
      plainly (Store.count (Stats.countShift moved))
      plainly (Store.count Stats.countRemove)
      return true

def recordInfo (entry : EntityId × Nat) : Guarded StoreError (Store δ) RecordInfo := do
  return ⟨entry.1, entry.2, ← readLength entry.2⟩

def scan : Guarded StoreError (Store δ) (List RecordInfo) := do
  plainly Store.requireOpen
  let entries ← plainly (Store.view (·.index.byOffset))
  entries.mapM recordInfo

end Guarded

/-- The operation with its guards. Those that calculate nothing have none. -/
def StoreOperation.guarded {δ : Type} [ByteDevice δ] [FaithfulDevice δ] :
    StoreOperation → Guarded StoreError (Store δ) StoreAnswer
  | .put key payload => do
      Guarded.put key payload
      return .done
  | .get key => return .payload (← Guarded.get key)
  | .remove key => return .flag (← Guarded.remove key)
  | .scan => return .records (← Guarded.scan)
  | operation => Guarded.plainly operation.run

/-! ## Every guard holds -/

namespace Store

variable {δ α : Type}

/-- What is known of the device and the index of a store. -/
structure Meets (device : δ → Prop) (entries : Index → Prop) (store : Store δ) : Prop where
  device : device store.device
  entries : entries store.index

/-- Offsets are low, wherever they point to. -/
def Low (index : Index) : Prop :=
  ∀ (key : EntityId) (offset : Nat), index[key]? = some offset → offset < 2 ^ 62

def AnyIndex (_ : Index) : Prop :=
  True

/-- A bound on the bytes that leaves room for one record more. -/
def roomy : Nat := 2 ^ 62 + 2 ^ 23

/-- The numbers that guards compare with one another. -/
theorem guarded_sizes : keySize = 16 ∧ headerSize = 20 ∧ maxPayloadSize = 2 ^ 22 ∧
    roomy = 2 ^ 62 + 2 ^ 23 ∧ UInt32.size = 2 ^ 32 ∧ signedRange = 2 ^ 63 ∧
      wordRange = 2 ^ 64 := by
  decide

variable {before after : δ → Prop} {entries : Index → Prop} {answers : α → Prop}

theorem unfaulted_onDevice {guarded : Guarded DeviceError δ α} {call : DeviceM δ α}
    (unfaulted : Unfaulted before guarded call answers after) :
    Unfaulted (Meets before entries) (Guarded.onDevice guarded) (onDevice call) answers
      (Meets after entries) := by
  intro ⟨device, index, config, stats, isOpen⟩ ⟨holds, kept⟩
  rcases unfaulted device holds with ⟨same, known⟩
  simp only [Guarded.onDevice, onDevice, same]
  cases ran : call device with
  | ok value reached =>
      refine ⟨rfl, ?_⟩
      intro answer next finished
      cases finished
      rcases known value reached ran with ⟨answered, left⟩
      exact ⟨answered, left, kept⟩
  | error failure reached =>
      refine ⟨rfl, ?_⟩
      intro answer next impossible
      cases impossible

theorem unfaulted_view {read : Store δ → α} (answers : α → Prop)
    (known : ∀ store, Meets before entries store → answers (read store)) :
    Unfaulted (Meets before entries) (Guarded.plainly (view read)) (view read) answers
      (Meets before entries) := by
  refine unfaulted_plainly ?_
  intro store holds value next ran
  cases ran
  exact ⟨known store holds, holds⟩

theorem unfaulted_count (update : Stats → Stats) :
    Unfaulted (Meets before entries) (Guarded.plainly (count update))
      (count update : StoreM δ Unit) (fun _ => True) (Meets before entries) := by
  refine unfaulted_plainly ?_
  intro store ⟨device, index⟩ value next ran
  cases ran
  exact ⟨trivial, device, index⟩

theorem unfaulted_requireOpen :
    Unfaulted (Meets before entries) (Guarded.plainly requireOpen)
      (requireOpen : StoreM δ Unit) (fun _ => True) (Meets before entries) := by
  refine unfaulted_plainly ?_
  intro store holds value next ran
  rw [requireOpen] at ran
  split at ran <;> cases ran
  exact ⟨trivial, holds⟩

theorem unfaulted_reindex {update reference : Index → Index} (later : Index → Prop)
    (same : ∀ index, entries index → update index = reference index)
    (kept : ∀ index, entries index → later (reference index)) :
    Unfaulted (Meets before entries) (Guarded.plainly (reindex update))
      (reindex reference : StoreM δ Unit) (fun _ => True) (Meets before later) := by
  intro ⟨device, index, config, stats, isOpen⟩ ⟨holds, known⟩
  constructor
  · change EStateM.Result.ok _ _ = EStateM.Result.ok _ _
    rw [same index known]
  · intro value next ran
    cases ran
    exact ⟨trivial, holds, kept index known⟩

theorem unfaulted_offset? (key : EntityId) :
    Unfaulted (Meets before Low) (Guarded.plainly (offset? key))
      (offset? key : StoreM δ (Option Nat)) (fun found => ∀ offset, found = some offset →
        offset < 2 ^ 62) (Meets before Low) :=
  unfaulted_view _ fun _ holds offset found => holds.entries key offset found

theorem unfaulted_expectLength {limit : Nat} (small : limit ≤ maxPayloadSize) (offset : Nat)
    (length : UInt32) :
    Unfaulted (Meets before entries)
      (Guarded.plainly (expectLength offset (validateLength length limit)))
      (expectLength offset (validateLength length limit) : StoreM δ Nat) (· ≤ maxPayloadSize)
      (Meets before entries) := by
  refine unfaulted_plainly ?_
  intro store holds value next ran
  rw [validateLength] at ran
  split at ran
  · cases ran
  · split at ran
    · cases ran
    · cases ran
      exact ⟨by omega, holds⟩

variable [ByteDevice δ] [FaithfulDevice δ] {limit : Nat}

open FaithfulDevice

section Small

variable (small : limit < wordRange - 1)
include small

theorem unfaulted_readLength {offset : Nat} (low : offset < 2 ^ 62) :
    Unfaulted (Meets (δ := δ) (Bounded limit) entries) (Guarded.readLength offset)
      (readLength offset) (fun _ => True) (Meets (Bounded limit) entries) := by
  have sizes := guarded_sizes
  rw [Guarded.readLength, readLength]
  refine Unfaulted.assure (by omega) ?_
  refine (unfaulted_onDevice (unfaulted_readInto small _ _)).bind fun _ _ => ?_
  exact unfaulted_pure trivial

theorem unfaulted_readValidLength {offset : Nat} (low : offset < 2 ^ 62) :
    Unfaulted (Meets (δ := δ) (Bounded limit) entries) (Guarded.readValidLength offset)
      (readValidLength offset) (· ≤ maxPayloadSize) (Meets (Bounded limit) entries) := by
  rw [Guarded.readValidLength, readValidLength]
  refine (unfaulted_readLength small low).bind fun length _ => ?_
  refine Unfaulted.bind (unfaulted_view (· ≤ maxPayloadSize)
    fun store _ => store.config.payloadLimit_le) fun bound short => ?_
  exact unfaulted_expectLength short offset length

end Small

theorem wrappingAdd_eq {offset : Nat} {delta : Int} (start : 0 ≤ offset + delta)
    (bound : offset + delta < wordRange) : wrappingAdd offset delta = (offset + delta).toNat := by
  rw [wrappingAdd, Int.emod_eq_of_lt start bound]

section Moved

variable {index : Index} (low : Low index) {source : Nat} {delta : Int}
  (start : 0 ≤ source + delta) (bound : delta ≤ 2 ^ 23)
include low start bound

/-- A low entry that is moved stays within numbers. -/
theorem Low.moved {key : EntityId} {offset : Nat} (led : index[key]? = some offset)
    (past : source ≤ offset) : 0 ≤ offset + delta ∧ offset + delta < wordRange := by
  have below := low key offset led
  rw [wordRange]
  omega

/-- No low entry wraps when it is moved, or comes to lie before all that is moved. -/
theorem Low.shiftFault?_eq_none : index.shiftFault? source delta = none := by
  rw [Index.shiftFault?, if_pos]
  intro entry member past
  have led := Std.ExtTreeMap.mem_toList_iff_getElem?_eq_some.mp member
  rcases low.moved start bound led past with ⟨from_, within⟩
  refine ⟨from_, within, ?_⟩
  rw [wrappingAdd_eq from_ within]
  omega

theorem Low.wrappingShiftFrom_eq :
    index.wrappingShiftFrom source delta = index.shiftFrom source delta := by
  apply Std.ExtTreeMap.ext_getElem?
  intro key
  rw [Index.getElem?_shiftFrom, Index.wrappingShiftFrom, Std.ExtTreeMap.getElem?_map]
  cases led : index[key]? with
  | none => rfl
  | some offset =>
      rw [Option.map_some, Option.map_some]
      by_cases past : source ≤ offset
      · rcases low.moved start bound led past with ⟨from_, within⟩
        rw [if_pos past, if_pos past, wrappingAdd_eq from_ within]
      · rw [if_neg past, if_neg past]

end Moved

theorem unfaulted_shiftAfter {source : Nat} {delta : Int} (start : 0 ≤ source + delta)
    (bound : delta ≤ 2 ^ 23) (small : limit + 2 ^ 23 < wordRange - 1) :
    Unfaulted (Meets (δ := δ) (Bounded limit) Low) (Guarded.shiftAfter source delta)
      (shiftAfter source delta) (fun _ => True)
      (Meets (Bounded (limit + 2 ^ 23)) AnyIndex) := by
  have larger : limit + delta.toNat ≤ limit + 2 ^ 23 := by omega
  rw [Guarded.shiftAfter, shiftAfter]
  refine Unfaulted.bind (unfaulted_view (fun _ => True) fun _ _ => trivial) fun config _ => ?_
  have shifted := unfaulted_shiftTail (δ := δ) config.shiftBufferLength
    config.shiftBufferLength_pos start (by omega : limit + delta.toNat < wordRange - 1)
  refine (unfaulted_onDevice (shifted.mono (fun _ => id) (fun _ => id)
    fun _ bounded => bounded.mono larger)).bind fun moved _ => ?_
  refine Unfaulted.stopAt (fun store holds => holds.entries.shiftFault?_eq_none start bound) ?_
  refine Unfaulted.bind (unfaulted_reindex AnyIndex
    (fun index low => Low.wrappingShiftFrom_eq low start bound) fun _ _ => trivial) fun _ _ => ?_
  exact unfaulted_pure trivial

/-! ## Operations -/

/-- The store before an operation: how its index and its bytes fit is left open. -/
abbrev Damaged : Store δ → Prop :=
  Meets (Bounded (2 ^ 62)) Low

/-- A write of no more than a record at a low offset finds room. -/
theorem unfaulted_write {offset : Nat} {data : ByteArray} (low : offset ≤ 2 ^ 62 + headerSize)
    (short : data.size ≤ maxPayloadSize) :
    Unfaulted (Meets (δ := δ) (Bounded roomy) entries)
      (Guarded.onDevice (Guarded.writeAt offset data)) (onDevice (ByteDevice.writeAt offset data))
      (fun _ => True) (Meets (Bounded roomy) entries) := by
  have sizes := guarded_sizes
  exact unfaulted_onDevice (unfaulted_writeAt (by decide) (by omega))

theorem faultless_get (key : EntityId) :
    Faultless (Damaged (δ := δ)) (Guarded.get key) (get key) := by
  have sizes := guarded_sizes
  have small : 2 ^ 62 < wordRange - 1 := by omega
  rw [Guarded.get, get]
  refine (unfaulted_count _).bind fun _ _ => unfaulted_requireOpen.bind fun _ _ => ?_
  refine (unfaulted_offset? key).bind fun found low => ?_
  cases found with
  | none => exact faultless_pure _
  | some offset =>
      have below := low offset rfl
      refine (unfaulted_readLength small below).bind fun length _ => ?_
      refine Unfaulted.assure (by omega) ?_
      refine (unfaulted_onDevice (unfaulted_readAt small _ _)).bind fun payload _ => ?_
      exact (unfaulted_count _).bind fun _ _ => faultless_pure _

theorem Damaged.roomy {store : Store δ} (damaged : Damaged store) :
    Meets (Bounded roomy) Low store :=
  ⟨damaged.device.mono (by decide), damaged.entries⟩

theorem faultless_append (key : EntityId) {payload : ByteArray}
    (short : payload.size ≤ maxPayloadSize) :
    Faultless (Damaged (δ := δ)) (Guarded.append key payload) (append key payload) := by
  have sizes := guarded_sizes
  have whole (header : Header) : header.encode.size ≤ maxPayloadSize := by
    rw [Header.size_encode]
    decide
  rw [Guarded.append, append]
  refine (unfaulted_onDevice (unfaulted_size (δ := δ))).bind fun offset low => ?_
  have inside : offset + headerSize < wordRange := by omega
  refine Unfaulted.of_before ?_ fun store => Damaged.roomy
  refine (unfaulted_write (by omega) (whole _)).bind fun _ _ => ?_
  refine Unfaulted.assure inside ?_
  refine (unfaulted_write (by omega) short).bind fun _ _ => ?_
  refine Unfaulted.bind (unfaulted_reindex AnyIndex (fun _ _ => rfl) fun _ _ => trivial)
    fun _ _ => ?_
  exact (unfaulted_count _).faultless

theorem faultless_update {offset : Nat} (low : offset < 2 ^ 62) {payload : ByteArray}
    (short : payload.size ≤ maxPayloadSize) :
    Faultless (Damaged (δ := δ)) (Guarded.update offset payload) (update offset payload) := by
  have sizes := guarded_sizes
  rw [Guarded.update, update]
  refine (unfaulted_readValidLength (by decide) low).bind fun length bound => ?_
  by_cases same : length = payload.size
  · simp only [if_pos same]
    refine Unfaulted.assure (by omega) ?_
    refine Unfaulted.of_before ?_ fun store => Damaged.roomy
    refine (unfaulted_write (by omega) short).bind fun _ _ => ?_
    exact (unfaulted_count _).faultless
  · simp only [if_neg same]
    refine Unfaulted.assure (by omega) (Unfaulted.assure (by omega) ?_)
    refine Unfaulted.assure (by omega) ?_
    refine (unfaulted_shiftAfter (by omega) (by omega) (by decide)).bind fun moved _ => ?_
    refine (unfaulted_count _).bind fun _ _ => Unfaulted.assure (by omega) ?_
    refine (unfaulted_write (by omega) (by rw [size_bigEndian32]; omega)).bind fun _ _ => ?_
    refine Unfaulted.assure (by omega) ?_
    refine (unfaulted_write (by omega) short).bind fun _ _ => ?_
    exact (unfaulted_count _).faultless

theorem faultless_put (key : EntityId) (payload : ByteArray) :
    Faultless (Damaged (δ := δ)) (Guarded.put key payload) (put key payload) := by
  have sizes := guarded_sizes
  rw [Guarded.put, put]
  refine Unfaulted.bind (unfaulted_view (· ≤ maxPayloadSize)
    fun store _ => store.config.payloadLimit_le) fun limit bound => ?_
  by_cases large : limit < payload.size
  · simp only [if_pos large]
    exact unfaulted_throw_bind _ _ _
  · simp only [if_neg large]
    have short : payload.size ≤ maxPayloadSize := by omega
    refine Unfaulted.assure (by omega) (Unfaulted.assure (by omega) ?_)
    refine unfaulted_requireOpen.bind fun _ _ => ?_
    refine (unfaulted_offset? key).bind fun found low => ?_
    cases found with
    | none => exact (faultless_append key short).bind fun _ _ => faultless_plainly
    | some offset =>
        exact (faultless_update (low offset rfl) short).bind fun _ _ => faultless_plainly

theorem faultless_remove (key : EntityId) :
    Faultless (Damaged (δ := δ)) (Guarded.remove key) (remove key) := by
  have sizes := guarded_sizes
  rw [Guarded.remove, remove]
  refine unfaulted_requireOpen.bind fun _ _ => ?_
  refine (unfaulted_offset? key).bind fun found low => ?_
  cases found with
  | none => exact faultless_pure _
  | some offset =>
      have below := low offset rfl
      refine Unfaulted.bind (unfaulted_reindex Low (fun _ _ => rfl) ?_) fun _ _ => ?_
      · intro index indexLow other place led
        rw [Std.ExtTreeMap.getElem?_erase] at led
        split at led
        · cases led
        · exact indexLow other place led
      refine (unfaulted_readValidLength (by decide) below).bind fun length bound => ?_
      refine Unfaulted.assure (by omega) (Unfaulted.assure (by omega) ?_)
      refine Unfaulted.assure (by omega) ?_
      refine (unfaulted_shiftAfter (by omega) (by omega) (by decide)).bind fun moved _ => ?_
      refine faultless_plainly.bind fun _ _ => faultless_plainly.bind fun _ _ => ?_
      exact faultless_plainly.bind fun _ _ => faultless_pure _

theorem Low.of_mem_byOffset {index : Index} (low : Low index) {entry : EntityId × Nat}
    (member : entry ∈ index.byOffset) : entry.2 < 2 ^ 62 := by
  rw [Index.byOffset, List.mem_mergeSort] at member
  exact low entry.1 entry.2 (Std.ExtTreeMap.mem_toList_iff_getElem?_eq_some.mp member)

theorem unfaulted_mapM_recordInfo {entries : List (EntityId × Nat)}
    (low : ∀ entry ∈ entries, entry.2 < 2 ^ 62) :
    Unfaulted (Damaged (δ := δ)) (entries.mapM Guarded.recordInfo) (entries.mapM recordInfo)
      (fun _ => True) Damaged := by
  induction entries with
  | nil => exact unfaulted_pure trivial
  | cons entry rest induction =>
      rcases List.forall_mem_cons.mp low with ⟨here, later⟩
      rw [List.mapM_cons, List.mapM_cons, Guarded.recordInfo, recordInfo, bind_assoc, bind_assoc]
      refine (unfaulted_readLength (by decide) here).bind fun length _ => ?_
      rw [pure_bind, pure_bind]
      exact (induction later).bind fun _ _ => unfaulted_pure trivial

theorem faultless_scan : Faultless (Damaged (δ := δ)) Guarded.scan scan := by
  rw [Guarded.scan, scan]
  refine unfaulted_requireOpen.bind fun _ _ => ?_
  refine Unfaulted.bind (unfaulted_view (fun entries : List (EntityId × Nat) =>
    ∀ entry ∈ entries, entry.2 < 2 ^ 62)
    fun _ damaged _ member => damaged.entries.of_mem_byOffset member) fun entries low => ?_
  exact (unfaulted_mapM_recordInfo low).faultless

end Store

theorem StoreOperation.faultless_guarded {δ : Type} [ByteDevice δ] [FaithfulDevice δ]
    (operation : StoreOperation) :
    Faultless (Store.Damaged (δ := δ)) operation.guarded operation.run := by
  cases operation with
  | put key payload => exact (Store.faultless_put key payload).bind fun _ _ => faultless_pure _
  | get key => exact (Store.faultless_get key).bind fun _ _ => faultless_pure _
  | remove key => exact (Store.faultless_remove key).bind fun _ _ => faultless_pure _
  | scan => exact Store.faultless_scan.bind fun _ _ => faultless_pure _
  | _ => exact faultless_plainly

/-- Whatever the bytes of a store are, wherever its index leads and whichever calls its
device refuses: no operation meets a sum or difference that leaves the range of numbers,
an entry that wraps or comes to lie before what is moved, or a slice that is out of range.
With all guards in place it does what it does without them, and ends with an answer or a
failure. -/
theorem Store.no_fault_when_damaged {δ : Type} [ByteDevice δ] [FaithfulDevice δ]
    {store : Store δ} (sound : FaithfulDevice.Sound store.device)
    (size : (FaithfulDevice.contents store.device).size < 2 ^ 62)
    (offsets : ∀ (key : EntityId) (offset : Nat), store.index[key]? = some offset →
      offset < 2 ^ 62)
    (operation : StoreOperation) :
    operation.guarded store = withoutFault (operation.run store) ∧
      ∀ fault after, operation.guarded store ≠ .ok (.error fault) after := by
  have damaged : Damaged store := ⟨⟨sound, Nat.le_of_lt size⟩, offsets⟩
  have same := (StoreOperation.faultless_guarded operation store damaged).1
  refine ⟨same, ?_⟩
  intro fault after faulted
  rw [same] at faulted
  cases ran : operation.run store with
  | ok answer next =>
      rw [ran] at faulted
      cases faulted
  | error failure next =>
      rw [ran] at faulted
      cases faulted

/-- An index leads into the middle of nothing but zeros, and the device refuses to
truncate: the tail has been moved when the removal fails. -/
theorem Store.no_fault_when_damaged_refused :
    let index : Index := (Std.ExtTreeMap.empty.insert (.ofPool 1) 5).insert (.ofPool 2) 27
    let store : Store (Faulty Memory) := ⟨⟨⟨zeroBytes 30⟩, [(.truncate, 0)]⟩, index, {}, {}, true⟩
    ((StoreOperation.remove (.ofPool 1)).outcome store).1 =
        .error (.device (Faulty.refusal .truncate)) ∧
      (StoreOperation.remove (.ofPool 1)).guarded store =
        withoutFault ((StoreOperation.remove (.ofPool 1)).run store) := by
  intro index store
  have refused : ((StoreOperation.remove (.ofPool 1)).outcome store).1 =
      .error (.device (Faulty.refusal .truncate)) := by
    cbv
  have size : (FaithfulDevice.contents store.device).size < 2 ^ 62 := by
    change (zeroBytes 30).size < 2 ^ 62
    rw [size_zeroBytes]
    decide
  have offsets : ∀ (key : EntityId) (offset : Nat), store.index[key]? = some offset →
      offset < 2 ^ 62 := by
    intro key offset led
    change ((Std.ExtTreeMap.empty.insert (EntityId.ofPool 1) 5).insert (EntityId.ofPool 2)
      27)[key]? = some offset at led
    rw [Std.ExtTreeMap.getElem?_insert, Std.ExtTreeMap.getElem?_insert] at led
    split at led
    · cases led
      decide
    · split at led
      · cases led
        decide
      · cases led
  have same := Store.no_fault_when_damaged trivial size offsets (.remove (.ofPool 1))
  exact ⟨refused, same.1⟩

end PackedRecords
