import PackedRecords.Proofs.Interruption
import PackedRecords.Device.Operation
import PackedRecords.Report.Verification
import PackedRecords.Store.Opening
import PackedRecords.Store.Operation

/-! # Stores do to a device what its calls do

A store, its opening and the verification of a device reach the device through its
calls only. So an invariant that every call keeps is kept by all of them, and if no
call fails in a certain way none of them does. Calls that extend the device are looked
at separately: only a put of a longer payload makes them.
-/

namespace PackedRecords

variable {δ α : Type} {invariant : δ → Prop} {permitted : DeviceError → Prop}

/-- The calls of a device keep an invariant and fail in permitted ways only, except
perhaps those that extend it. A shift may find that there is nothing to shift. -/
structure ConfinedCalls [ByteDevice δ] (invariant : δ → Prop)
    (permitted : DeviceError → Prop) : Prop where
  call : ∀ operation : DeviceOperation, (∀ additional, operation ≠ .extend additional) →
    Confined invariant permitted (operation.run : DeviceM δ DeviceAnswer)
  readPastEnd : ∀ offset length size, permitted (.readPastEnd offset length size)

/-! ## Calls of the device -/

namespace ConfinedCalls

variable [ByteDevice δ]

theorem readAt (calls : ConfinedCalls invariant permitted) (offset length : Nat) :
    Confined invariant permitted (ByteDevice.readAt offset length) :=
  (calls.call (.readAt offset length) fun _ => by simp).of_bind_pure

theorem readInto (calls : ConfinedCalls invariant permitted) (offset length : Nat) :
    Confined invariant permitted (ByteDevice.readInto offset length) := by
  have read := (calls.call (.readInto offset (zeroBytes length)) fun _ => by simp).of_bind_pure
  rwa [size_zeroBytes] at read

theorem writeAt (calls : ConfinedCalls invariant permitted) (offset : Nat)
    (data : ByteArray) : Confined invariant permitted (ByteDevice.writeAt offset data) :=
  (calls.call (.writeAt offset data) fun _ => by simp).of_bind_pure

theorem truncate (calls : ConfinedCalls invariant permitted) (newSize : Nat) :
    Confined invariant permitted (ByteDevice.truncate newSize) :=
  (calls.call (.truncate newSize) fun _ => by simp).of_bind_pure

theorem size (calls : ConfinedCalls invariant permitted) :
    Confined invariant permitted ByteDevice.size :=
  (calls.call .size fun _ => by simp).of_bind_pure

theorem flush (calls : ConfinedCalls invariant permitted) :
    Confined invariant permitted ByteDevice.flush :=
  (calls.call .flush fun _ => by simp).of_bind_pure

theorem sync (calls : ConfinedCalls invariant permitted) :
    Confined invariant permitted ByteDevice.sync :=
  (calls.call .sync fun _ => by simp).of_bind_pure

theorem copyChunk (calls : ConfinedCalls invariant permitted)
    (origin destination length : Nat) :
    Confined invariant permitted (copyChunk origin destination length) :=
  (calls.readInto origin length).bind fun bytes => calls.writeAt destination bytes

theorem copyUp (calls : ConfinedCalls invariant permitted) (buffer : Nat)
    (positive : 0 < buffer) (source distance remaining : Nat) :
    Confined invariant permitted (copyUp buffer positive source distance remaining) := by
  induction remaining using Nat.strongRecOn with
  | ind remaining induction =>
      rw [PackedRecords.copyUp]
      split
      · exact confined_pure ()
      · exact (calls.copyChunk _ _ _).bind fun _ => induction _ (by omega)

theorem copyDown (calls : ConfinedCalls invariant permitted) (buffer : Nat)
    (positive : 0 < buffer) (source distance remaining : Nat) :
    Confined invariant permitted (copyDown buffer positive source distance remaining) := by
  induction remaining using Nat.strongRecOn generalizing source with
  | ind remaining induction =>
      rw [PackedRecords.copyDown]
      split
      · exact confined_pure ()
      · exact (calls.copyChunk _ _ _).bind fun _ => induction _ (by omega) _

theorem shiftTail (calls : ConfinedCalls invariant permitted) (buffer : Nat)
    (positive : 0 < buffer) (source : Nat) {delta : Int}
    (growing : ∀ distance : Nat, delta = distance + 1 →
      Confined invariant permitted (ByteDevice.extend (distance + 1))) :
    Confined invariant permitted (shiftTail buffer positive source delta) := by
  rw [PackedRecords.shiftTail]
  apply calls.size.bind
  intro size
  by_cases past : size < source
  · simp only [if_pos past]
    exact confined_throw_bind (calls.readPastEnd source 0 size) _
  · simp only [if_neg past]
    match delta with
    | .ofNat 0 => exact confined_pure _
    | .ofNat (distance + 1) =>
        exact (growing distance rfl).bind fun _ => (calls.copyUp _ _ _ _ _).bind fun _ =>
          confined_pure _
    | .negSucc below =>
        exact (calls.copyDown _ _ _ _ _).bind fun _ => (calls.truncate _).bind fun _ =>
          confined_pure _

end ConfinedCalls

/-! ## Operations of a store -/

/-- A failure of the device is one of those permitted, and nothing else than the device
keeps a store from working but the records, the payload and its having been closed. -/
def StoreError.From (permitted : DeviceError → Prop) : StoreError → Prop
  | device failure => permitted failure
  | payloadTooLarge .. | corruptRecord .. | closed => True
  | io _ | codec _ | locked => False

namespace Store

/-- The device satisfies an invariant, and the settings and the state of the store are
the ones given. -/
structure Stays (invariant : δ → Prop) (config : Config) (isOpen : Bool)
    (store : Store δ) : Prop where
  device : invariant store.device
  config : store.config = config
  isOpen : store.isOpen = isOpen

variable {config : Config} {isOpen : Bool}

/-- What a store does keeps its device, settings and state within bounds. -/
abbrev Confines (invariant : δ → Prop) (permitted : DeviceError → Prop) (config : Config)
    (isOpen : Bool) (action : StoreM δ α) : Prop :=
  Confined (Stays invariant config isOpen) (StoreError.From permitted) action

theorem confinedFrom_onDevice {call : DeviceM δ α} {store : Store δ}
    (stays : Stays invariant config isOpen store)
    (confined : ConfinedFrom invariant permitted call store.device) :
    ConfinedFrom (Stays invariant config isOpen) (StoreError.From permitted) (onDevice call)
      store := by
  rcases store with ⟨device, index, sameConfig, stats, sameOpen⟩
  rw [ConfinedFrom]
  cases ran : call device with
  | ok value after =>
      simp only [onDevice, ran]
      exact ⟨confined.ok ran, stays.config, stays.isOpen⟩
  | error failure after =>
      simp only [onDevice, ran]
      rcases confined.error ran with ⟨holds, allowed⟩
      exact ⟨⟨holds, stays.config, stays.isOpen⟩, allowed⟩

theorem confines_onDevice {call : DeviceM δ α} (confined : Confined invariant permitted call) :
    Confines invariant permitted config isOpen (onDevice call) :=
  fun store stays => confinedFrom_onDevice stays (confined store.device stays.device)

theorem confines_view (read : Store δ → α) :
    Confines invariant permitted config isOpen (view read) :=
  fun _ stays => stays

theorem confines_count (update : Stats → Stats) :
    Confines invariant permitted config isOpen (count update : StoreM δ Unit) :=
  fun _ stays => ⟨stays.device, stays.config, stays.isOpen⟩

theorem confines_reindex (update : Index → Index) :
    Confines invariant permitted config isOpen (reindex update : StoreM δ Unit) :=
  fun _ stays => ⟨stays.device, stays.config, stays.isOpen⟩

theorem confines_requireOpen :
    Confines invariant permitted config isOpen (requireOpen : StoreM δ Unit) := by
  intro ⟨device, index, sameConfig, stats, sameOpen⟩ stays
  cases sameOpen with
  | true => exact stays
  | false => exact ⟨stays, trivial⟩

theorem confines_expectLength (offset : Nat) (length : Except Corruption Nat) :
    Confines invariant permitted config isOpen (expectLength offset length : StoreM δ Nat) := by
  cases length with
  | ok length => exact confined_pure length
  | error fault => exact confined_throw trivial

theorem confines_contains (key : EntityId) :
    Confines invariant permitted config isOpen (contains key : StoreM δ Bool) :=
  confines_requireOpen.bind fun _ => confines_view _

theorem confines_length : Confines invariant permitted config isOpen (length : StoreM δ Nat) :=
  confines_requireOpen.bind fun _ => confines_view _

section Operations

variable [ByteDevice δ] (calls : ConfinedCalls invariant permitted)
include calls

theorem confines_readLength (offset : Nat) :
    Confines invariant permitted config isOpen (readLength offset) :=
  (confines_onDevice (calls.readInto _ _)).bind fun _ => confined_pure _

theorem confines_readValidLength (offset : Nat) :
    Confines invariant permitted config isOpen (readValidLength offset) :=
  (confines_readLength calls offset).bind fun _ => (confines_view _).bind fun _ =>
    confines_expectLength _ _

theorem confines_shiftAfter (source : Nat) {delta : Int}
    (growing : ∀ distance : Nat, delta = distance + 1 →
      Confined invariant permitted (ByteDevice.extend (distance + 1))) :
    Confines invariant permitted config isOpen (shiftAfter source delta) :=
  (confines_view _).bind fun _ =>
    (confines_onDevice (calls.shiftTail _ _ _ growing)).bind fun _ =>
      (confines_reindex _).bind fun _ => confined_pure _

theorem confines_syncIfConfigured :
    Confines invariant permitted config isOpen syncIfConfigured := by
  apply (confines_view _).bind
  intro configured
  cases configured with
  | true => exact confines_onDevice calls.sync
  | false => exact confined_pure ()

theorem confines_get (key : EntityId) :
    Confines invariant permitted config isOpen (get key) := by
  refine (confines_count _).bind fun _ => confines_requireOpen.bind fun _ =>
    (confines_view _).bind fun found => ?_
  cases found with
  | none => exact confined_pure none
  | some offset =>
      exact (confines_readLength calls offset).bind fun _ =>
        (confines_onDevice (calls.readAt _ _)).bind fun _ => (confines_count _).bind fun _ =>
          confined_pure _

theorem confines_append (key : EntityId) (payload : ByteArray) :
    Confines invariant permitted config isOpen (append key payload) :=
  (confines_onDevice calls.size).bind fun _ =>
    (confines_onDevice (calls.writeAt _ _)).bind fun _ =>
      (confines_onDevice (calls.writeAt _ _)).bind fun _ =>
        (confines_reindex _).bind fun _ => confines_count _

theorem confines_update (growing : ∀ additional,
      Confined invariant permitted (ByteDevice.extend additional)) (offset : Nat)
    (payload : ByteArray) : Confines invariant permitted config isOpen (update offset payload) := by
  apply (confines_readValidLength calls offset).bind
  intro length
  by_cases same : length = payload.size
  · simp only [if_pos same]
    exact (confines_onDevice (calls.writeAt _ _)).bind fun _ => confines_count _
  · simp only [if_neg same]
    exact (confines_shiftAfter calls _ fun _ _ => growing _).bind fun _ =>
      (confines_count _).bind fun _ => (confines_onDevice (calls.writeAt _ _)).bind fun _ =>
        (confines_onDevice (calls.writeAt _ _)).bind fun _ => confines_count _

theorem confines_put (growing : ∀ additional,
      Confined invariant permitted (ByteDevice.extend additional)) (key : EntityId)
    (payload : ByteArray) : Confines invariant permitted config isOpen (put key payload) := by
  apply (confines_view _).bind
  intro limit
  by_cases large : limit < payload.size
  · simp only [if_pos large]
    exact confined_throw_bind trivial _
  · simp only [if_neg large]
    refine confines_requireOpen.bind fun _ => (confines_view _).bind fun found => ?_
    cases found with
    | none =>
        exact (confines_append calls key payload).bind fun _ => confines_syncIfConfigured calls
    | some offset =>
        exact (confines_update calls growing offset payload).bind fun _ =>
          confines_syncIfConfigured calls

theorem confines_remove (key : EntityId) :
    Confines invariant permitted config isOpen (remove key) := by
  refine confines_requireOpen.bind fun _ => (confines_view _).bind fun found => ?_
  cases found with
  | none => exact confined_pure false
  | some offset =>
      apply (confines_reindex _).bind
      intro _
      apply (confines_readValidLength calls offset).bind
      intro length
      have shrinks : ∀ distance : Nat, -((headerSize + length : Nat) : Int) = distance + 1 →
          Confined invariant permitted (ByteDevice.extend (distance + 1)) := by
        intro distance impossible
        omega
      exact (confines_shiftAfter calls _ shrinks).bind fun _ =>
        (confines_syncIfConfigured calls).bind fun _ => (confines_count _).bind fun _ =>
          (confines_count _).bind fun _ => confined_pure true

theorem confines_fileSize : Confines invariant permitted config isOpen fileSize :=
  confines_requireOpen.bind fun _ => confines_onDevice calls.size

theorem confines_mapM_recordInfo (entries : List (EntityId × Nat)) :
    Confines invariant permitted config isOpen (entries.mapM recordInfo) := by
  induction entries with
  | nil => exact confined_pure []
  | cons entry rest induction =>
      rw [List.mapM_cons]
      exact ((confines_readLength calls entry.2).bind fun _ => confined_pure _).bind fun _ =>
        induction.bind fun _ => confined_pure _

theorem confines_scan : Confines invariant permitted config isOpen scan :=
  confines_requireOpen.bind fun _ => (confines_view _).bind fun _ =>
    confines_mapM_recordInfo calls _

end Operations

end Store

/-- Every operation but `close` keeps an invariant of the device that its calls keep, if
a put does. -/
theorem StoreOperation.confines_run [ByteDevice δ] (calls : ConfinedCalls invariant permitted)
    {config : Config} {isOpen : Bool} {operation : StoreOperation}
    (remains : operation ≠ .close)
    (puts : ∀ key payload, operation = .put key payload →
      Store.Confines invariant permitted config isOpen (Store.put key payload)) :
    Store.Confines invariant permitted config isOpen operation.run := by
  cases operation with
  | put key payload => exact (puts key payload rfl).bind fun _ => confined_pure _
  | get key => exact (Store.confines_get calls key).bind fun _ => confined_pure _
  | remove key => exact (Store.confines_remove calls key).bind fun _ => confined_pure _
  | contains key => exact (Store.confines_contains key).bind fun _ => confined_pure _
  | offsetOf key =>
      exact (Store.confines_requireOpen.bind fun _ => Store.confines_view _).bind fun _ =>
        confined_pure _
  | length => exact Store.confines_length.bind fun _ => confined_pure _
  | isEmpty =>
      exact (Store.confines_length.bind fun _ => confined_pure _).bind fun _ =>
        confined_pure _
  | keys =>
      exact (Store.confines_requireOpen.bind fun _ => Store.confines_view _).bind fun _ =>
        confined_pure _
  | fileSize => exact (Store.confines_fileSize calls).bind fun _ => confined_pure _
  | scan => exact (Store.confines_scan calls).bind fun _ => confined_pure _
  | flush =>
      exact (Store.confines_requireOpen.bind fun _ =>
        Store.confines_onDevice calls.flush).bind fun _ => confined_pure _
  | sync =>
      exact (Store.confines_requireOpen.bind fun _ =>
        Store.confines_onDevice calls.sync).bind fun _ => confined_pure _
  | close => exact absurd rfl remains

/-! ## Opening and verification -/

namespace Store

theorem confined_onDevice {call : DeviceM δ α} (confined : Confined invariant permitted call) :
    Confined invariant (StoreError.From permitted) (OpeningM.onDevice call) := by
  intro device holds
  rw [ConfinedFrom]
  cases ran : call device with
  | ok value after =>
      simp only [OpeningM.onDevice, ran]
      exact confined.ok holds ran
  | error failure after =>
      simp only [OpeningM.onDevice, ran]
      exact confined.error holds ran

variable [ByteDevice δ] (calls : ConfinedCalls invariant permitted)
include calls

theorem confined_readRecord (limit size offset : Nat) :
    Confined invariant (StoreError.From permitted) (readRecord (δ := δ) limit size offset) := by
  rw [readRecord]
  by_cases short : size < offset + headerSize
  · simp only [if_pos short]
    exact confined_throw_bind trivial _
  · simp only [if_neg short]
    apply (confined_onDevice (calls.readInto _ _)).bind
    intro bytes
    cases (Header.decode bytes).validate limit with
    | error fault => exact confined_throw trivial
    | ok length =>
        by_cases past : size < offset + headerSize + length
        · simp only [if_pos past]
          exact confined_throw_bind trivial _
        · simp only [if_neg past]
          exact confined_pure _

theorem confined_indexRecords (limit size offset : Nat) (index : Index) :
    Confined invariant (StoreError.From permitted)
      (indexRecords (δ := δ) limit size offset index) := by
  fun_induction indexRecords (δ := δ) limit size offset index with
  | case1 => exact confined_pure _
  | case2 offset index more induction =>
      apply (confined_readRecord calls limit size offset).bind
      rintro ⟨key, length⟩
      exact induction key length

theorem confined_buildIndex (limit : Nat) :
    Confined invariant (StoreError.From permitted) (buildIndex (δ := δ) limit) :=
  (confined_onDevice calls.size).bind fun _ => confined_indexRecords calls _ _ _ _

end Store

namespace Verification

variable [ByteDevice δ] (calls : ConfinedCalls invariant permitted)
include calls

theorem confined_readRecord (size offset : Nat) :
    Confined invariant permitted (readRecord (δ := δ) size offset) := by
  rw [readRecord]
  by_cases short : size < offset + headerSize
  · simp only [if_pos short]
    exact confined_pure _
  · simp only [if_neg short]
    exact (calls.readInto _ _).bind fun _ => confined_pure _

theorem confined_walk (size offset : Nat) (seen : Index) (found : Verification) :
    Confined invariant permitted (walk (δ := δ) size offset seen found) := by
  fun_induction walk (δ := δ) size offset seen found with
  | case1 => exact confined_pure _
  | case2 offset seen found more induction =>
      apply (confined_readRecord calls size offset).bind
      intro record
      cases record with
      | error fault => exact confined_pure _
      | ok entry => exact induction entry.1 entry.2

end Verification

theorem confined_verifyRecords [ByteDevice δ] (calls : ConfinedCalls invariant permitted) :
    Confined invariant permitted (verifyRecords (δ := δ)) :=
  calls.size.bind fun _ => (Verification.confined_walk calls _ _ _ _).bind fun _ =>
    confined_pure _

end PackedRecords
