import PackedRecords.Proofs.Reference.PayloadMap
import PackedRecords.Proofs.Store.WriteParts

/-! # Failed writes

A put or a removal can fail at any call of the device, in the middle of a shift as
well. The records before the written one are never reached. The others are whole as
long as the tail has not been touched, and whole again once it has been moved. While a
record grows, its old payload stays readable until its length field is rewritten.
-/

namespace PackedRecords

/-- The key whose record an operation writes. -/
def StoreOperation.writtenKey? : StoreOperation → Option EntityId
  | .put key _ | .remove key => some key
  | _ => none

namespace Store

variable {δ : Type} [ByteDevice δ] [FaithfulDevice δ]

/-- Where the record of a key starts, or would start. -/
def place (store : Store δ) (key : EntityId) : Nat :=
  store.index[key]?.getD (FaithfulDevice.contents store.device).size

/-- The operation leaves the other records where they are, or it gets to the point
where the tail has been moved. -/
inductive Settles (store : Store δ) : StoreOperation → Prop
  | append {key : EntityId} {payload : ByteArray} (absent : store.index[key]? = none) :
      Settles store (.put key payload)
  | inPlace {key : EntityId} {payload old : ByteArray}
      (found : store.lookUp key = .ok (some old)) (same : old.size = payload.size) :
      Settles store (.put key payload)
  | resized {key : EntityId} {payload : ByteArray} {offset moved : Nat} {shifted : Store δ}
      (led : store.index[key]? = some offset)
      (ran : moveTail offset (fun length => (payload.size : Int) - length) store =
        .ok moved shifted) :
      Settles store (.put key payload)
  | removed {key : EntityId} {offset moved : Nat} {shifted : Store δ}
      (led : store.index[key]? = some offset)
      (ran : moveTail offset (fun length => -((headerSize + length : Nat) : Int))
        { store with index := store.index.erase key } = .ok moved shifted) :
      Settles store (.remove key)

end Store

theorem StoreOperation.keeps_run {δ : Type} [ByteDevice δ] [FaithfulDevice δ]
    {operation : StoreOperation} {key : EntityId} (writes : operation.writtenKey? = some key)
    {original : Store Memory} {bound : Nat}
    (unled : ∀ offset, offset < bound → original.index[key]? ≠ some offset) :
    Keeps (Store.Retains (δ := δ) key (· < bound) original) operation.run (fun _ => True) := by
  cases operation with
  | put other payload =>
      cases writes
      exact (Store.keeps_put unled payload).bind fun _ _ => keeps_pure trivial
  | remove other =>
      cases writes
      exact (Store.keeps_remove unled).bind fun _ _ => keeps_pure trivial
  | _ => cases writes

namespace Ledger.Describes

variable {δ : Type} [ByteDevice δ] [FaithfulDevice δ] {ledger : Ledger}
  {store after : Store δ} {key other : EntityId} {old payload : ByteArray}
  {failure : StoreError} (describes : ledger.Describes store)
include describes

/-- The record that a look-up finds. -/
theorem exists_record_of_lookUp (found : store.lookUp key = .ok (some old)) :
    ∃ before rest, ledger.records = before ++ ⟨key, old⟩ :: rest ∧ key ∈ ledger.live ∧
      key ∉ keysOf rest ∧ store.index[key]? = some (image before).size ∧
      FaithfulDevice.contents store.device =
        image before ++ Record.encode ⟨key, old⟩ ++ image rest ∧
      old.size ≤ store.config.payloadLimit := by
  rw [describes.lookUp_eq, payload?] at found
  by_cases inUse : key ∈ ledger.live
  · rcases describes.exists_record inUse with
      ⟨before, ⟨sameKey, stored⟩, rest, split, rfl, last, led, held, short⟩
    rw [if_pos inUse, split, lastPayload?_split rfl last] at found
    cases found
    exact ⟨before, rest, split, inUse, last, led, held, short⟩
  · rw [if_neg inUse] at found
    cases found

theorem mem_live_of_index {offset : Nat} (led : store.index[key]? = some offset) :
    key ∈ ledger.live := by
  apply Decidable.byContradiction
  intro unused
  rw [describes.index_eq_none unused] at led
  cases led

theorem size_contents :
    (FaithfulDevice.contents store.device).size = (image ledger.records).size := by
  rw [describes.contents]

/-! ## Before the place of the record -/

theorem place_le_size (key : EntityId) :
    store.place key ≤ (FaithfulDevice.contents store.device).size := by
  rw [Store.place]
  by_cases inUse : key ∈ ledger.live
  · rcases describes.exists_record inUse with ⟨before, record, rest, _, _, _, led, held, _⟩
    rw [led, held, ByteArray.size_append, ByteArray.size_append, Option.getD_some]
    omega
  · exact Nat.le_of_eq (by rw [describes.index_eq_none inUse, Option.getD_none])

/-- A record that starts before the place of the written one ends before it. -/
theorem occupies_lt_place {offset position : Nat} (led : store.index[other]? = some offset)
    (below : offset < store.place key) (occupies : ledger.Occupies other position) :
    position < store.place key := by
  rw [Store.place] at below ⊢
  by_cases inUse : key ∈ ledger.live
  · rcases describes.exists_record inUse with ⟨before, record, rest, split, _, _, written, _⟩
    rw [written, Option.getD_some] at below ⊢
    rw [describes.index, offset?] at led
    split at led
    · exact occupies.lt_of_lastOffset? split led below
    · cases led
  · rw [describes.index_eq_none inUse, Option.getD_none, describes.size_contents]
    exact occupies.lt_size

variable (sound : FaithfulDevice.Sound store.device)
include sound

/-- Wherever it fails, a write leaves alone what lies before its place. -/
theorem retains_before {operation : StoreOperation} (writes : operation.writtenKey? = some key)
    (failed : operation.run store = .error failure after) :
    Store.Retains key (· < store.place key) store.inMemory after := by
  have unled (offset : Nat) (below : offset < store.place key) :
      store.index[key]? ≠ some offset := by
    intro led
    rw [Store.place, led, Option.getD_some] at below
    exact Nat.lt_irrefl _ below
  have inside (position : Nat) (below : position < store.place key) :
      position < (FaithfulDevice.contents store.device).size :=
    Nat.lt_of_lt_of_le below (describes.place_le_size key)
  exact (StoreOperation.keeps_run writes unled).error (.of_inMemory sound inside key) failed

/-! ## Other records -/

variable (different : other ≠ key)
include different

theorem lookUp_of_append (absent : store.index[key]? = none)
    (failed : Store.put key payload store = .error failure after) :
    after.lookUp other = .ok (ledger.payload? other) := by
  have ran : (StoreOperation.put key payload).run store = .error failure after :=
    bind_of_error failed
  refine (describes.retains_before sound rfl ran).lookUp_eq (describes_inMemory.mpr describes)
    (.inr different) ?_
  intro position occupies
  rw [Store.place, absent, Option.getD_none, describes.size_contents]
  exact occupies.lt_size

theorem lookUp_of_inPlace (found : store.lookUp key = .ok (some old))
    (same : old.size = payload.size)
    (failed : Store.put key payload store = .error failure after) :
    after.lookUp other = .ok (ledger.payload? other) := by
  rcases describes.exists_record_of_lookUp found with
    ⟨before, rest, split, _, _, led, held, short⟩
  have small := Nat.le_trans short store.config.payloadLimit_le
  have inMemoryHeld : store.inMemory.device.bytes =
      image before ++ Record.encode ⟨key, old⟩ ++ image rest := held
  have retains := (Store.keeps_put_inPlace inMemoryHeld small led same).error
    (.of_inMemory sound (fun position isKept => isKept.1) key) failed
  refine retains.lookUp_eq (describes_inMemory.mpr describes) (.inr different) ?_
  intro position occupies
  have size := Record.size_eq ⟨key, old⟩
  rcases occupies.apart split different with front | back
  · exact ⟨describes.size_contents ▸ occupies.lt_size, .inl (by omega)⟩
  · exact ⟨describes.size_contents ▸ occupies.lt_size, .inr back⟩

omit sound different in
theorem lookUp_of_large (large : store.config.payloadLimit < payload.size)
    (failed : Store.put key payload store = .error failure after) (other : EntityId) :
    after.lookUp other = .ok (ledger.payload? other) := by
  rcases store with ⟨device, index, config, stats, isOpen⟩
  rw [Store.put_run_large large device] at failed
  cases failed
  exact describes.lookUp_eq other

omit different in
/-- Once the tail has been moved for a put, the store differs from the finished one only
where the written record stands. -/
theorem retains_of_shifted {before rest : List Record} {record : Record} {moved : Nat}
    {shifted : Store δ} (split : ledger.records = before ++ record :: rest)
    (inUse : record.key ∈ ledger.live) (last : record.key ∉ keysOf rest)
    (led : store.index[record.key]? = some (image before).size)
    (held : FaithfulDevice.contents store.device =
      image before ++ record.encode ++ image rest)
    (recordShort : record.payload.size ≤ store.config.payloadLimit)
    (unequal : record.payload.size ≠ payload.size)
    (short : payload.size ≤ store.config.payloadLimit)
    (ran : Store.moveTail (image before).size (fun length => (payload.size : Int) - length)
      store = .ok moved shifted)
    (failed : Store.put record.key payload store = .error failure after) :
    ∃ final : Store Memory, (ledger.put record.key payload).Describes final ∧
      Store.Retains record.key (Store.Around (image before).size
        ((image before).size + Record.size ⟨record.key, payload⟩)
        (image (ledger.put record.key payload).records).size) final after := by
  let new : Record := ⟨record.key, payload⟩
  have newSize : new.size = headerSize + payload.size := new.size_eq
  have size := record.size_eq
  have changed : (payload.size : Int) - record.payload.size = (new.size : Int) - record.size := by
    omega
  rcases Store.moveTail_ok sound describes.isOpen held recordShort changed ran with
    ⟨shiftedSound, kept, keptSize, same⟩
  rcases exists_of_bind_ok ran with ⟨length, ready, read, _⟩
  have sameLength := Store.length_of_readValidLength sound held
    (Nat.le_trans recordShort store.config.payloadLimit_le) read
  subst sameLength
  rcases store with ⟨device, index, config, stats, isOpen⟩
  cases describes.isOpen
  let shiftedIndex := index.shiftFrom ((image before).size + record.size)
    ((new.size : Int) - record.size)
  let final : Store Memory :=
    ⟨⟨image before ++ new.encode ++ image rest⟩, shiftedIndex, config, stats, true⟩
  have finalDescribes : (ledger.put record.key payload).Describes final := by
    refine (describes_inMemory.mpr describes).replaced split inUse last short ?_ stats
    intro key
    rw [Index.getElem?_shiftFrom, ← changed]
  have retains : Store.Retains record.key (Store.Around (image before).size
      ((image before).size + new.encode.size) (image before ++ new.encode ++ image rest).size)
      final shifted := .of_middle shiftedSound (keptSize.trans new.size_encode.symm) same
  rw [Record.size_encode, newSize] at retains
  rw [Store.put_eq_finishPut led device short read unequal ran] at failed
  refine ⟨final, finalDescribes, ?_⟩
  rw [← congrArg ByteArray.size finalDescribes.contents, newSize]
  exact (Store.keeps_finishPut _ _ moved).error retains failed

/-- Once the tail has been moved for a put, the store differs from the finished one only
where the written record stands. -/
theorem lookUp_of_resized {offset moved : Nat} {shifted : Store δ}
    (led : store.index[key]? = some offset)
    (ran : Store.moveTail offset (fun length => (payload.size : Int) - length) store =
      .ok moved shifted)
    (failed : Store.put key payload store = .error failure after) :
    after.lookUp other = .ok (ledger.payload? other) := by
  have inUse := describes.mem_live_of_index led
  rcases describes.exists_record inUse with
    ⟨before, record, rest, split, rfl, last, sameLed, held, recordShort⟩
  cases led.symm.trans sameLed
  by_cases same : record.payload.size = payload.size
  · refine describes.lookUp_of_inPlace sound different ?_ same failed
    rw [describes.lookUp_eq, payload?, if_pos inUse, split, lastPayload?_split rfl last]
  by_cases large : store.config.payloadLimit < payload.size
  · exact describes.lookUp_of_large large failed other
  · rcases describes.retains_of_shifted sound split inUse last sameLed held recordShort same
      (Nat.le_of_not_lt large) ran failed with ⟨final, finalDescribes, retains⟩
    have newSplit : (ledger.put record.key payload).records =
        before ++ ⟨record.key, payload⟩ :: rest := by
      rw [put, if_pos inUse, split, replaceLast_split rfl last]
    rw [retains.lookUp_eq finalDescribes (.inr different), payload?_put describes.recorded,
      if_neg (Ne.symm different)]
    intro position occupies
    exact ⟨occupies.lt_size, occupies.apart newSplit different⟩

/-- Once the tail has been moved for a removal, nothing else is done to the bytes. -/
theorem lookUp_of_removed {offset moved : Nat} {shifted : Store δ}
    (led : store.index[key]? = some offset)
    (ran : Store.moveTail offset (fun length => -((headerSize + length : Nat) : Int))
      { store with index := store.index.erase key } = .ok moved shifted)
    (failed : Store.remove key store = .error failure after) :
    after.lookUp other = .ok (ledger.payload? other) := by
  have inUse := describes.mem_live_of_index led
  rcases describes.exists_record inUse with
    ⟨before, record, rest, split, rfl, last, sameLed, held, short⟩
  cases led.symm.trans sameLed
  have changed : -((headerSize + record.payload.size : Nat) : Int) =
      ((0 : Nat) : Int) - record.size := by
    rw [Record.size_eq]
    omega
  rcases store with ⟨device, index, config, stats, isOpen⟩
  cases describes.isOpen
  let erased : Store δ := ⟨device, index.erase record.key, config, stats, true⟩
  have erasedSound : FaithfulDevice.Sound erased.device := sound
  rcases Store.moveTail_ok erasedSound rfl held short changed ran with
    ⟨shiftedSound, kept, keptSize, same⟩
  have nothing : kept = ByteArray.empty := ByteArray.size_eq_zero_iff.mp keptSize
  rw [nothing, ByteArray.append_empty, Int.natCast_zero, Int.zero_sub] at same
  have finalDescribes := (describes_inMemory.mpr describes).removed split inUse last stats
  rw [← same] at finalDescribes
  have retains : Store.Retains record.key (· < (FaithfulDevice.contents shifted.device).size)
      shifted.inMemory shifted := .of_inMemory shiftedSound (fun _ inside => inside) _
  have rest : Keeps (Store.Retains (δ := δ) record.key
      (· < (FaithfulDevice.contents shifted.device).size) shifted.inMemory)
      (Store.syncIfConfigured >>= fun _ => Store.count (Stats.countShift moved) >>= fun _ =>
        Store.count Stats.countRemove >>= fun _ => pure true) (fun _ => True) :=
    Store.keeps_syncIfConfigured.bind fun _ _ => (Store.keeps_count _).bind fun _ _ =>
      (Store.keeps_count _).bind fun _ _ => keeps_pure trivial
  rw [Store.remove_eq_moveTail led device, bind_of_ok ran] at failed
  rw [(rest.error retains failed).lookUp_eq finalDescribes (.inr different), payload?_remove,
    if_neg (Ne.symm different)]
  intro position occupies
  rw [(describes_inMemory.mp finalDescribes).size_contents]
  exact occupies.lt_size

omit different

section Growing

variable (found : store.lookUp key = .ok (some old)) (grows : old.size < payload.size)
  (unwritten : ∀ offset resized, store.index[key]? = some offset →
    Store.resizeRecord offset payload store ≠ .ok () resized)
  (failed : Store.put key payload store = .error failure after)
include found grows unwritten failed

/-- Until the new length has been written, a growing record is the old one. -/
theorem retains_of_growing {before rest : List Record}
    (led : store.index[key]? = some (image before).size)
    (held : FaithfulDevice.contents store.device =
      image before ++ Record.encode ⟨key, old⟩ ++ image rest)
    (oldShort : old.size ≤ store.config.payloadLimit)
    (short : payload.size ≤ store.config.payloadLimit) :
    Store.Retains key (· < (image before).size + Record.size ⟨key, old⟩) store.inMemory
      after := by
  have small := Nat.le_trans oldShort store.config.payloadLimit_le
  have inside (position : Nat) (below : position < (image before).size + Record.size ⟨key, old⟩) :
      position < (FaithfulDevice.contents store.device).size := by
    rw [held, ByteArray.size_append, ByteArray.size_append, Record.size_encode]
    omega
  have retains : Store.Retains key (· < (image before).size + Record.size ⟨key, old⟩)
    store.inMemory store := .of_inMemory sound inside key
  rcases store with ⟨device, index, config, stats, isOpen⟩
  cases describes.isOpen
  cases read : Store.readValidLength (image before).size ⟨device, index, config, stats, true⟩ with
  | error reason middle =>
      rw [Store.put_eq_update short device led, Store.update, bind_assoc,
        bind_of_error read] at failed
      cases failed
      exact (Store.keeps_readValidLength _).error retains read
  | ok length ready =>
      have sameLength := Store.length_of_readValidLength sound held small read
      have unequal : length ≠ payload.size := by
        rw [sameLength]
        exact Nat.ne_of_lt grows
      rw [Store.put_eq_resize led device short read unequal] at failed
      cases resized : Store.resizeRecord (image before).size payload
          ⟨device, index, config, stats, true⟩ with
      | ok done middle => exact absurd resized (unwritten _ middle led)
      | error reason middle =>
          rw [bind_of_error resized] at failed
          cases failed
          exact Store.retains_of_resizeRecord_error held small (Nat.le_of_lt grows) retains resized

theorem lookUp_of_growing : after.lookUp key = .ok (some old) := by
  rcases describes.exists_record_of_lookUp found with
    ⟨before, rest, split, inUse, last, led, held, oldShort⟩
  by_cases large : store.config.payloadLimit < payload.size
  · rw [describes.lookUp_of_large large failed, ← found, describes.lookUp_eq]
  · have retains := describes.retains_of_growing sound found grows unwritten failed led held
      oldShort (Nat.le_of_not_lt large)
    rw [← found, describes.lookUp_eq]
    refine retains.lookUp_eq (describes_inMemory.mpr describes) (.inl inUse) ?_
    intro position occupies
    exact occupies.lt_of_split split rfl last

end Growing

end Ledger.Describes

/-! ## What is left of a failed write -/

/-- A look-up succeeds in both stores, with the same answer. -/
def Store.FindsAs {δ : Type} [ByteDevice δ] [FaithfulDevice δ] (store other : Store δ)
    (key : EntityId) : Prop :=
  ∃ found, store.lookUp key = .ok found ∧ other.lookUp key = .ok found

/-- A put or a removal fails, at whichever call. Below the place of the written record
nothing has changed, neither the bytes nor the index nor what is looked up there. Every
other key is found with its payload when the tail did not have to be moved, or has been
moved. A record that was to grow is found with its old payload until its new length has
been written. -/
theorem failed_write {δ : Type} [ByteDevice δ] [FaithfulDevice δ] {ledger : Ledger}
    {store after : Store δ} (describes : ledger.Describes store)
    (sound : FaithfulDevice.Sound store.device) {operation : StoreOperation} {key : EntityId}
    (writes : operation.writtenKey? = some key) {failure : StoreError}
    (failed : operation.run store = .error failure after) :
    ((FaithfulDevice.contents after.device).extract 0 (store.place key) =
        (FaithfulDevice.contents store.device).extract 0 (store.place key) ∧
      ∀ other offset, store.index[other]? = some offset → offset < store.place key →
        after.index[other]? = some offset ∧ after.FindsAs store other) ∧
    (store.Settles operation → ∀ other, other ≠ key → after.FindsAs store other) ∧
    (∀ payload old, operation = .put key payload → store.lookUp key = .ok (some old) →
      old.size < payload.size →
      (∀ offset resized, store.index[key]? = some offset →
        Store.resizeRecord offset payload store ≠ .ok () resized) →
      after.lookUp key = .ok (some old)) := by
  have retains := describes.retains_before sound writes failed
  refine ⟨⟨?_, ?_⟩, ?_, ?_⟩
  · exact retains.device.agree.extract_eq (describes.place_le_size key)
  · intro other offset led below
    refine ⟨(retains.entries other offset below).mpr led, _, ?_, describes.lookUp_eq other⟩
    refine retains.lookUp_eq (Ledger.describes_inMemory.mpr describes)
      (.inl (describes.mem_live_of_index led)) ?_
    intro position occupies
    exact describes.occupies_lt_place led below occupies
  · intro settles other different
    refine ⟨ledger.payload? other, ?_, describes.lookUp_eq other⟩
    cases settles with
    | append absent =>
        cases writes
        exact describes.lookUp_of_append sound different absent (error_of_bind_pure failed)
    | inPlace found same =>
        cases writes
        exact describes.lookUp_of_inPlace sound different found same (error_of_bind_pure failed)
    | resized led ran =>
        cases writes
        exact describes.lookUp_of_resized sound different led ran (error_of_bind_pure failed)
    | removed led ran =>
        cases writes
        exact describes.lookUp_of_removed sound different led ran (error_of_bind_pure failed)
  · intro payload old same found grows unwritten
    subst same
    exact describes.lookUp_of_growing sound found grows unwritten (error_of_bind_pure failed)

/-- Three records on a device that serves only one more write, which is enough to move the
tail but not to write the new length. -/
def failingWhileGrowing : Store (Faulty Memory) :=
  let opened := Store.opened {}
    [⟨.replicate 1, ⟨#[1]⟩⟩, ⟨.replicate 2, ⟨#[2]⟩⟩, ⟨.replicate 3, ⟨#[3]⟩⟩]
  opened.withDevice ⟨opened.device, [(.writeAt, 1)]⟩

/-- No key has lost its payload when the put of a longer payload fails there. -/
theorem failed_write_while_growing :
    ∃ failure after, (StoreOperation.put (.replicate 2) ⟨#[2, 2]⟩).run failingWhileGrowing =
        .error failure after ∧
      after.lookUp (.replicate 1) = .ok (some ⟨#[1]⟩) ∧
      after.lookUp (.replicate 2) = .ok (some ⟨#[2]⟩) ∧
      after.lookUp (.replicate 3) = .ok (some ⟨#[3]⟩) := by
  have within : AllWithin ({} : Config).payloadLimit
      [⟨.replicate 1, ⟨#[1]⟩⟩, ⟨.replicate 2, ⟨#[2]⟩⟩, ⟨.replicate 3, ⟨#[3]⟩⟩] := by decide
  have describes : (Ledger.ofRecords [⟨.replicate 1, ⟨#[1]⟩⟩, ⟨.replicate 2, ⟨#[2]⟩⟩,
      ⟨.replicate 3, ⟨#[3]⟩⟩]).Describes failingWhileGrowing :=
    Ledger.describes_inMemory.mp (Ledger.describes_opened within)
  have led : failingWhileGrowing.index[(EntityId.replicate 2)]? = some 21 := by cbv
  have first : failingWhileGrowing.lookUp (.replicate 1) = .ok (some ⟨#[1]⟩) := by
    rw [describes.lookUp_eq]
    cbv
  have second : failingWhileGrowing.lookUp (.replicate 2) = .ok (some ⟨#[2]⟩) := by
    rw [describes.lookUp_eq]
    cbv
  have third : failingWhileGrowing.lookUp (.replicate 3) = .ok (some ⟨#[3]⟩) := by
    rw [describes.lookUp_eq]
    cbv
  have fails : succeeds ((StoreOperation.put (.replicate 2) ⟨#[2, 2]⟩).run failingWhileGrowing) =
      false := by cbv
  have moves : succeeds (Store.moveTail 21 (fun length => ((2 : Nat) : Int) - length)
      failingWhileGrowing) = true := by cbv
  have refuses : succeeds (Store.resizeRecord 21 ⟨#[2, 2]⟩ failingWhileGrowing) = false := by cbv
  rcases exists_of_not_succeeds fails with ⟨failure, after, failed⟩
  rcases exists_of_succeeds moves with ⟨moved, shifted, ran⟩
  rcases failed_write describes trivial rfl failed with ⟨⟨_, before⟩, others, growing⟩
  refine ⟨failure, after, failed, ?_, ?_, ?_⟩
  · have firstLed : failingWhileGrowing.index[(EntityId.replicate 1)]? = some 0 := by cbv
    have below : 0 < failingWhileGrowing.place (.replicate 2) := by
      rw [Store.place, led]
      decide
    rcases (before _ _ firstLed below).2 with ⟨found, here, there⟩
    rw [here, ← there, first]
  · refine growing _ _ rfl second (by decide) ?_
    intro offset resized sameLed succeeded
    cases led.symm.trans sameLed
    rw [succeeded] at refuses
    cases refuses
  · rcases others (.resized led ran) (.replicate 3) (by decide) with ⟨found, here, there⟩
    rw [here, ← there, third]

end PackedRecords
