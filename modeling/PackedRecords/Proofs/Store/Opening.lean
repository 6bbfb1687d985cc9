import PackedRecords.Proofs.Record.Grammar
import PackedRecords.Proofs.Store.Following
import PackedRecords.Proofs.Store.TailShift
import PackedRecords.Store.Opening

/-! # What opening accepts and finds

Opening reads the records off the front of a device one by one. It succeeds when
nothing is left over then; otherwise it reports where the rest starts and what is
wrong with it. In neither case does it change the bytes.
-/

namespace PackedRecords

/-! ## The index of a list of records -/

/-- The index of records that are laid out from `start` on, on top of an index. -/
def indexFrom (start : Nat) : List Record → Index → Index
  | [], index => index
  | record :: rest, index =>
      indexFrom (start + record.size) rest (index.insert record.key start)

theorem getElem?_indexFrom (key : EntityId) (start : Nat) (records : List Record)
    (index : Index) :
    (indexFrom start records index)[key]? = (lastOffset? key start records).or index[key]? := by
  induction records generalizing start index with
  | nil => rfl
  | cons record rest induction =>
      rw [indexFrom, induction, lastOffset?, Option.or_assoc,
        Std.ExtTreeMap.getElem?_insert]
      congr 1
      by_cases same : record.key = key
      · simp [same]
      · simp [same]

theorem getElem?_indexFrom_empty (key : EntityId) (records : List Record) :
    (indexFrom 0 records ∅)[key]? = lastOffset? key 0 records := by
  rw [getElem?_indexFrom, Std.ExtTreeMap.getElem?_empty, Option.or_none]

namespace Store

/-! ## Opening in memory -/

section InMemory

variable {limit : Nat} (small : limit ≤ maxPayloadSize)
include small

theorem readRecord_run (front bytes : ByteArray) :
    readRecord limit (front ++ bytes).size front.size (⟨front ++ bytes⟩ : Memory) =
      if Readable limit bytes then
        .ok ((Header.decode bytes).key, (Header.decode bytes).length.toNat) ⟨front ++ bytes⟩
      else
        .error (.corruptRecord front.size (faultOf limit front.size bytes))
          ⟨front ++ bytes⟩ := by
  have total : (front ++ bytes).size = front.size + bytes.size := ByteArray.size_append
  have field : readBigEndian32 bytes keySize = (Header.decode bytes).length := rfl
  have unsigned : maxPayloadSize < 0x80000000 := by decide
  rw [readRecord, total]
  by_cases short : bytes.size < headerSize
  · have unreadable : ¬Readable limit bytes := by
      intro readable
      exact absurd readable.header (Nat.not_le_of_lt short)
    have remaining : front.size + bytes.size - front.size = bytes.size := by omega
    rw [if_pos (by omega), if_neg unreadable, faultOf, if_pos short, remaining]
    rfl
  · have read : OpeningM.onDevice (ByteDevice.readInto front.size headerSize)
        (⟨front ++ bytes⟩ : Memory) = .ok (bytes.extract 0 headerSize) ⟨front ++ bytes⟩ := by
      have cut : (front ++ bytes).extract (front.size + 0) (front.size + headerSize) =
          bytes.extract 0 headerSize := ByteArray.extract_append_size_add
      rw [Nat.add_zero] at cut
      rw [OpeningM.onDevice, Memory.readInto_run (by omega), cut]
    rw [if_neg (by omega)]
    change (OpeningM.onDevice (ByteDevice.readInto front.size headerSize) >>= _) _ = _
    rw [bind_of_ok read, Header.decode_extract, Header.validate, validateLength]
    by_cases negative : 0x80000000 ≤ (Header.decode bytes).length.toNat
    · have unreadable : ¬Readable limit bytes := by
        intro readable
        have length := readable.length
        omega
      rw [if_neg unreadable, faultOf, field, if_neg short, if_pos negative, if_pos negative]
      rfl
    · by_cases exceeds : limit < (Header.decode bytes).length.toNat
      · have unreadable : ¬Readable limit bytes := by
          intro readable
          exact absurd readable.length (Nat.not_le_of_lt exceeds)
        rw [if_neg unreadable, faultOf, field, if_neg short, if_neg negative,
          if_neg negative, if_pos exceeds, if_pos exceeds]
        rfl
      · rw [if_neg negative, if_neg exceeds]
        by_cases past : bytes.size < headerSize + (Header.decode bytes).length.toNat
        · have unreadable : ¬Readable limit bytes := by
            intro readable
            exact absurd readable.payload (Nat.not_le_of_lt past)
          rw [if_neg unreadable, faultOf, field, if_neg short, if_neg negative, if_neg exceeds]
          simp only []
          rw [if_pos (by omega)]
          rfl
        · have readable : Readable limit bytes :=
            ⟨Nat.le_of_not_lt short, Nat.le_of_not_lt exceeds, Nat.le_of_not_lt past⟩
          rw [if_pos readable]
          simp only []
          rw [if_neg (by omega)]
          rfl

theorem readRecord_encode (front : ByteArray) {record : Record}
    (short : record.payload.size ≤ limit) (rest : ByteArray) :
    readRecord limit (front ++ (record.encode ++ rest)).size front.size
        (⟨front ++ (record.encode ++ rest)⟩ : Memory) =
      .ok (record.key, record.payload.size) ⟨front ++ (record.encode ++ rest)⟩ := by
  rw [readRecord_run small, if_pos (readable_encode small short rest),
    Record.decode_encode_append]
  have length := Record.toNat_length (Nat.le_trans short small)
  simp only [Record.header, length]

/-- The walk goes through whole records and notes them. -/
theorem indexRecords_run (front : ByteArray) {records : List Record}
    (within : AllWithin limit records) (rest : ByteArray) (index : Index) :
    indexRecords limit (front ++ (image records ++ rest)).size front.size index
        (⟨front ++ (image records ++ rest)⟩ : Memory) =
      indexRecords limit (front ++ (image records ++ rest)).size
        (front.size + (image records).size) (indexFrom front.size records index)
        ⟨front ++ (image records ++ rest)⟩ := by
  induction records generalizing front index with
  | nil => rfl
  | cons record records induction =>
      rcases List.forall_mem_cons.mp within with ⟨short, shortRest⟩
      have positive := record.size_pos
      have bytes : front ++ (image (record :: records) ++ rest) =
          front ++ (record.encode ++ (image records ++ rest)) := by
        rw [image_cons, ByteArray.append_assoc]
      have moved : front ++ (record.encode ++ (image records ++ rest)) =
          front ++ record.encode ++ (image records ++ rest) := by
        rw [ByteArray.append_assoc]
      have inside : ¬(front ++ (record.encode ++ (image records ++ rest))).size ≤
          front.size := by
        rw [ByteArray.size_append, ByteArray.size_append, Record.size_encode]
        omega
      have next : front.size + headerSize + record.payload.size =
          (front ++ record.encode).size := by
        rw [ByteArray.size_append, Record.size_encode, Record.size_eq, Nat.add_assoc]
      have place : front.size + (image (record :: records)).size =
          (front ++ record.encode).size + (image records).size := by
        rw [ByteArray.size_append, Record.size_encode, size_image_cons, Nat.add_assoc]
      have start : front.size + record.size = (front ++ record.encode).size := by
        rw [ByteArray.size_append, Record.size_encode]
      rw [bytes, indexRecords, if_neg inside,
        bind_of_ok (readRecord_encode small front short _)]
      simp only [next]
      rw [moved, induction (front ++ record.encode) shortRest, place, indexFrom, start]

theorem buildIndex_image {records : List Record} (within : AllWithin limit records) :
    buildIndex limit (⟨image records⟩ : Memory) =
      .ok (indexFrom 0 records ∅) ⟨image records⟩ := by
  have walked := indexRecords_run small ByteArray.empty within ByteArray.empty ∅
  rw [ByteArray.empty_append, ByteArray.append_empty, ByteArray.size_empty, Nat.zero_add]
    at walked
  change indexRecords limit (image records).size 0 ∅ (⟨image records⟩ : Memory) = _
  rw [walked, indexRecords, if_pos (Nat.le_refl _), pure_run]

theorem buildIndex_rest {records : List Record} (within : AllWithin limit records)
    {rest : ByteArray} (stuck : ¬Readable limit rest) (leftOver : rest.size ≠ 0) :
    buildIndex limit (⟨image records ++ rest⟩ : Memory) =
      .error (.corruptRecord (image records).size
        (faultOf limit (image records).size rest)) ⟨image records ++ rest⟩ := by
  have walked := indexRecords_run small ByteArray.empty within rest ∅
  rw [ByteArray.empty_append, ByteArray.size_empty, Nat.zero_add] at walked
  have inside : ¬(image records ++ rest).size ≤ (image records).size := by
    rw [ByteArray.size_append]
    omega
  have failed : readRecord limit (image records ++ rest).size (image records).size
      (⟨image records ++ rest⟩ : Memory) =
        .error (.corruptRecord (image records).size
          (faultOf limit (image records).size rest)) ⟨image records ++ rest⟩ := by
    rw [readRecord_run small, if_neg stuck]
  change indexRecords limit (image records ++ rest).size 0 ∅
    (⟨image records ++ rest⟩ : Memory) = _
  rw [walked, indexRecords, if_neg inside, bind_of_error failed]

end InMemory

/-- A store just opened on some records. -/
def opened (config : Config) (records : List Record) : Store Memory :=
  ⟨⟨image records⟩, indexFrom 0 records ∅, config, {}, true⟩

theorem openDevice_image {config : Config} {records : List Record}
    (within : AllWithin config.payloadLimit records) :
    openDevice config (⟨image records⟩ : Memory) = .ok (opened config records) := by
  rw [openDevice, buildIndex_image config.payloadLimit_le within, opened]

theorem openDevice_rest {config : Config} {records : List Record}
    (within : AllWithin config.payloadLimit records) {rest : ByteArray}
    (stuck : ¬Readable config.payloadLimit rest) (leftOver : rest.size ≠ 0) :
    openDevice config (⟨image records ++ rest⟩ : Memory) =
      .error (.corruptRecord (image records).size
        (faultOf config.payloadLimit (image records).size rest),
          ⟨image records ++ rest⟩) := by
  rw [openDevice, buildIndex_rest config.payloadLimit_le within stuck leftOver]
  rfl

/-- Every byte string is a file or leaves a rest, and opening tells which. -/
theorem openDevice_memory (config : Config) (bytes : ByteArray) :
    ∃ records rest, LongestRun config.payloadLimit bytes records rest ∧
      (IsFile config.payloadLimit bytes ∧ bytes = image records ∧
          openDevice config (⟨bytes⟩ : Memory) = .ok (opened config records) ∨
        ¬IsFile config.payloadLimit bytes ∧
          openDevice config (⟨bytes⟩ : Memory) =
            .error (.corruptRecord (image records).size
              (faultOf config.payloadLimit (image records).size rest), ⟨bytes⟩)) := by
  have small := config.payloadLimit_le
  rcases exists_records config.payloadLimit bytes with ⟨records, rest, split, within, stuck⟩
  have run := LongestRun.of_not_readable small split within stuck
  have decided := isFile_iff_of_not_readable small split within stuck
  refine ⟨records, rest, run, ?_⟩
  by_cases empty : rest.size = 0
  · have whole : bytes = image records := by
      rw [split, ByteArray.size_eq_zero_iff.mp empty, ByteArray.append_empty]
    refine .inl ⟨decided.mpr empty, whole, ?_⟩
    rw [whole]
    exact openDevice_image within
  · refine .inr ⟨fun file => empty (decided.mp file), ?_⟩
    rw [split]
    exact openDevice_rest within stuck empty

/-! ## Opening on a faithful device -/

section OnFaithful

variable {δ α : Type} [ByteDevice δ] [FaithfulDevice δ]

/-- A faithful device with certain contents stands for them in memory. -/
def openingReflection (δ : Type) [ByteDevice δ] [FaithfulDevice δ] (bytes : ByteArray) :
    Reflection δ Memory StoreError where
  Sound device := FaithfulDevice.Sound device ∧ FaithfulDevice.contents device = bytes
  view device := ⟨FaithfulDevice.contents device⟩
  Refusal := StoreError.IsRefusal

/-- A step of the walk does what it does in memory, and leaves the bytes alone also
when it is refused. -/
abbrev OpeningFollows (bytes : ByteArray) (step : OpeningM δ α)
    (reference : OpeningM Memory α) : Prop :=
  (openingReflection δ bytes).Follows step reference

theorem openingFollows_onDevice {call : DeviceM δ α} {reference : DeviceM Memory α}
    (follows : FaithfulDevice.Follows call reference)
    (looks : ∀ device, FaithfulDevice.Sound device →
      FaithfulDevice.contents (finalState (call device)) = FaithfulDevice.contents device)
    (bytes : ByteArray) :
    OpeningFollows bytes (OpeningM.onDevice call) (OpeningM.onDevice reference) := by
  intro device ⟨sound, held⟩
  have kept := looks device sound
  rw [held] at kept
  cases ran : call device with
  | ok value after =>
      rw [ran] at kept
      rcases follows.ok sound ran with ⟨afterSound, memoryRan⟩
      simp only [OpeningM.onDevice, ran]
      refine ⟨⟨afterSound, kept⟩, ?_⟩
      change OpeningM.onDevice reference ⟨FaithfulDevice.contents device⟩ = _
      change reference ⟨FaithfulDevice.contents device⟩ = _ at memoryRan
      rw [OpeningM.onDevice, memoryRan]
      rfl
  | error failure after =>
      rw [ran] at kept
      simp only [OpeningM.onDevice, ran]
      rcases follows.error sound ran with ⟨afterSound, refused | memoryRan⟩
      · exact ⟨⟨afterSound, kept⟩, .inl refused⟩
      · refine ⟨⟨afterSound, kept⟩, .inr ?_⟩
        change OpeningM.onDevice reference ⟨FaithfulDevice.contents device⟩ = _
        change reference ⟨FaithfulDevice.contents device⟩ = _ at memoryRan
        rw [OpeningM.onDevice, memoryRan]
        rfl

theorem openingFollows_readRecord (bytes : ByteArray) (limit size offset : Nat) :
    OpeningFollows (δ := δ) bytes (readRecord limit size offset)
      (readRecord limit size offset) := by
  rw [readRecord, readRecord]
  by_cases short : size < offset + headerSize
  · simp only [if_pos short]
    exact Reflection.follows_throw_bind _ _ _
  · simp only [if_neg short]
    refine (openingFollows_onDevice (FaithfulDevice.follows_readInto offset headerSize)
      (fun _ sound => FaithfulDevice.contents_readInto _ _ sound) bytes).bind fun read => ?_
    cases (Header.decode read).validate limit with
    | error fault => exact Reflection.follows_throw _
    | ok length =>
        by_cases past : size < offset + headerSize + length
        · simp only [if_pos past]
          exact Reflection.follows_throw_bind _ _ _
        · simp only [if_neg past]
          exact Reflection.follows_pure _

theorem openingFollows_indexRecords (bytes : ByteArray) (limit size offset : Nat)
    (index : Index) :
    OpeningFollows (δ := δ) bytes (indexRecords limit size offset index)
      (indexRecords limit size offset index) := by
  induction remaining : size - offset using Nat.strongRecOn generalizing offset index with
  | ind remaining induction =>
      rw [indexRecords, indexRecords]
      by_cases reached : size ≤ offset
      · simp only [if_pos reached]
        exact Reflection.follows_pure _
      · simp only [if_neg reached]
        refine (openingFollows_readRecord bytes limit size offset).bind fun read => ?_
        have positive := headerSize_pos
        exact induction _ (by omega) _ _ rfl

theorem openingFollows_buildIndex (bytes : ByteArray) (limit : Nat) :
    OpeningFollows (δ := δ) bytes (buildIndex limit) (buildIndex limit) :=
  (openingFollows_onDevice FaithfulDevice.follows_size
    (fun _ sound => FaithfulDevice.contents_size sound) bytes).bind fun _ =>
      openingFollows_indexRecords bytes _ _ _ _

variable {config : Config} {device : δ}

/-- A store opened on a faithful device is the one opened in memory. -/
theorem openDevice_ok (sound : FaithfulDevice.Sound device) {store : Store δ}
    (opened : openDevice config device = .ok store) :
    FaithfulDevice.Sound store.device ∧
      FaithfulDevice.contents store.device = FaithfulDevice.contents device ∧
      openDevice config (⟨FaithfulDevice.contents device⟩ : Memory) =
        .ok store.inMemory := by
  rw [openDevice] at opened
  cases ran : buildIndex config.payloadLimit device with
  | error failure after =>
      rw [ran] at opened
      cases opened
  | ok index after =>
      rw [ran] at opened
      cases opened
      have follows := openingFollows_buildIndex (δ := δ) (FaithfulDevice.contents device)
        config.payloadLimit
      rcases follows.ok ⟨sound, rfl⟩ ran with ⟨⟨afterSound, kept⟩, memoryRan⟩
      refine ⟨afterSound, kept, ?_⟩
      change buildIndex config.payloadLimit (⟨FaithfulDevice.contents device⟩ : Memory) = _
        at memoryRan
      rw [openDevice, memoryRan]
      rfl

/-- A device that could not be opened is handed back as it was; the reason is the one
in memory, unless the device refused a call. -/
theorem openDevice_error (sound : FaithfulDevice.Sound device) {failure : StoreError}
    {after : δ} (failed : openDevice config device = .error (failure, after)) :
    FaithfulDevice.Sound after ∧
      FaithfulDevice.contents after = FaithfulDevice.contents device ∧
      (failure.IsRefusal ∨
        openDevice config (⟨FaithfulDevice.contents device⟩ : Memory) =
          .error (failure, ⟨FaithfulDevice.contents after⟩)) := by
  rw [openDevice] at failed
  cases ran : buildIndex config.payloadLimit device with
  | ok index after =>
      rw [ran] at failed
      cases failed
  | error reason middle =>
      rw [ran] at failed
      cases failed
      have follows := openingFollows_buildIndex (δ := δ) (FaithfulDevice.contents device)
        config.payloadLimit
      rcases follows.error ⟨sound, rfl⟩ ran with ⟨⟨middleSound, kept⟩, outcome⟩
      have released := FaithfulDevice.contents_release middle
      refine ⟨FaithfulDevice.sound_release middle middleSound, released.trans kept, ?_⟩
      rcases outcome with refused | memoryRan
      · exact .inl refused
      · right
        change buildIndex config.payloadLimit (⟨FaithfulDevice.contents device⟩ : Memory) = _
          at memoryRan
        rw [openDevice, memoryRan, released]
        rfl

/-- No call of the device is refused while a store is opened on it. -/
def OpensFreely (config : Config) (device : δ) : Prop :=
  ∀ failure after, openDevice config device = .error (failure, after) → ¬failure.IsRefusal

end OnFaithful

theorem opensFreely_memory (config : Config) (memory : Memory) : OpensFreely config memory := by
  intro failure after failed
  rcases openDevice_memory config memory.bytes with ⟨records, rest, _, ⟨_, _, ran⟩ | ⟨_, ran⟩⟩
  · rw [ran] at failed
    cases failed
  · rw [ran] at failed
    cases failed
    exact id

/-! ## The accepted devices -/

section Accepted

variable {δ : Type} [ByteDevice δ] [FaithfulDevice δ] {config : Config} {device : δ}

/-- An opened store is the store of the records that the device holds. -/
theorem exists_records_of_openDevice (sound : FaithfulDevice.Sound device) {store : Store δ}
    (accepted : openDevice config device = .ok store) :
    ∃ records, AllWithin config.payloadLimit records ∧
      FaithfulDevice.contents device = image records ∧
      store.inMemory = opened config records := by
  have memoryRan := (openDevice_ok sound accepted).2.2
  rcases openDevice_memory config (FaithfulDevice.contents device) with
    ⟨records, rest, run, ⟨_, whole, acceptedRan⟩ | ⟨_, failedRan⟩⟩
  · rw [memoryRan] at acceptedRan
    exact ⟨records, run.within, whole, Except.ok.inj acceptedRan⟩
  · rw [memoryRan] at failedRan
    cases failedRan

/-- A device that holds records within the limit can be opened. -/
theorem exists_openDevice (sound : FaithfulDevice.Sound device)
    (free : OpensFreely config device) {records : List Record}
    (within : AllWithin config.payloadLimit records)
    (held : FaithfulDevice.contents device = image records) :
    ∃ store, openDevice config device = .ok store ∧
      store.inMemory = opened config records := by
  have memoryRan : openDevice config (⟨FaithfulDevice.contents device⟩ : Memory) =
      .ok (opened config records) := by
    rw [held]
    exact openDevice_image within
  cases ran : openDevice config device with
  | ok store =>
      have reflected := (openDevice_ok sound ran).2.2
      rw [memoryRan] at reflected
      exact ⟨store, rfl, (Except.ok.inj reflected).symm⟩
  | error reported =>
      rcases reported with ⟨failure, after⟩
      rcases (openDevice_error sound ran).2.2 with refused | failedRan
      · exact absurd refused (free failure after ran)
      · rw [memoryRan] at failedRan
        cases failedRan

/-- What is not a file is reported at the end of its longest sequence of records. -/
theorem corruptRecord_of_openDevice (sound : FaithfulDevice.Sound device)
    (free : OpensFreely config device) {failure : StoreError} {after : δ}
    (failed : openDevice config device = .error (failure, after)) :
    ∃ records rest,
      LongestRun config.payloadLimit (FaithfulDevice.contents device) records rest ∧
      failure = .corruptRecord (image records).size
        (faultOf config.payloadLimit (image records).size rest) := by
  rcases (openDevice_error sound failed).2.2 with refused | memoryRan
  · exact absurd refused (free failure after failed)
  · rcases openDevice_memory config (FaithfulDevice.contents device) with
      ⟨records, rest, run, ⟨_, _, acceptedRan⟩ | ⟨_, failedRan⟩⟩
    · rw [memoryRan] at acceptedRan
      cases acceptedRan
    · rw [memoryRan] at failedRan
      exact ⟨records, rest, run, congrArg Prod.fst (Except.error.inj failedRan)⟩

end Accepted

/-- Opening accepts files and nothing else, and finds the last record of every key. A
wider limit accepts no less and finds the same. The bytes stay in either case. -/
theorem openDevice_exactly {δ : Type} [ByteDevice δ] [FaithfulDevice δ] (config : Config)
    (device : δ) (sound : FaithfulDevice.Sound device) (free : OpensFreely config device) :
    ((∃ store, openDevice config device = .ok store) ↔
      IsFile config.payloadLimit (FaithfulDevice.contents device)) ∧
    (∀ store, openDevice config device = .ok store →
      FaithfulDevice.contents store.device = FaithfulDevice.contents device ∧
      ∃ records, AllWithin config.payloadLimit records ∧
        image records = FaithfulDevice.contents device ∧
        ∀ key, store.index[key]? = lastOffset? key 0 records) ∧
    (∀ failure after, openDevice config device = .error (failure, after) →
      FaithfulDevice.contents after = FaithfulDevice.contents device ∧
      ∃ records rest,
        LongestRun config.payloadLimit (FaithfulDevice.contents device) records rest ∧
        failure = .corruptRecord (image records).size
          (faultOf config.payloadLimit (image records).size rest)) ∧
    (∀ wider : Config, config.payloadLimit ≤ wider.payloadLimit →
      OpensFreely wider device → ∀ store, openDevice config device = .ok store →
        ∃ other, openDevice wider device = .ok other ∧ other.index = store.index) := by
  refine ⟨⟨?_, ?_⟩, ?_, ?_, ?_⟩
  · intro ⟨store, accepted⟩
    rcases exists_records_of_openDevice sound accepted with ⟨records, within, held, _⟩
    exact ⟨records, within, held.symm⟩
  · intro ⟨records, within, held⟩
    rcases exists_openDevice sound free within held.symm with ⟨store, accepted, _⟩
    exact ⟨store, accepted⟩
  · intro store accepted
    rcases exists_records_of_openDevice sound accepted with ⟨records, within, held, same⟩
    refine ⟨(openDevice_ok sound accepted).2.1, records, within, held.symm, ?_⟩
    intro key
    have index : store.index = indexFrom 0 records ∅ := congrArg Store.index same
    rw [index, getElem?_indexFrom_empty]
  · intro failure after failed
    exact ⟨(openDevice_error sound failed).2.1, corruptRecord_of_openDevice sound free failed⟩
  · intro wider wide widerFree store accepted
    rcases exists_records_of_openDevice sound accepted with ⟨records, within, held, same⟩
    rcases exists_openDevice sound widerFree (within.mono wide) held with
      ⟨other, widerAccepted, widerSame⟩
    refine ⟨other, widerAccepted, ?_⟩
    exact (congrArg Store.index widerSame).trans (congrArg Store.index same).symm

/-- Of two records of one key the second one counts. -/
theorem openDevice_exactly_repeated_key :
    ∃ store, openDevice {}
        (⟨image [⟨.ofPool 1, ⟨#[1, 2, 3]⟩⟩, ⟨.ofPool 1, ⟨#[4]⟩⟩]⟩ : Memory) = .ok store ∧
      store.index[EntityId.ofPool 1]? = some 23 := by
  let repeated : List Record := [⟨.ofPool 1, ⟨#[1, 2, 3]⟩⟩, ⟨.ofPool 1, ⟨#[4]⟩⟩]
  have within : AllWithin ({} : Config).payloadLimit repeated := by decide
  rcases openDevice_exactly {} (⟨image repeated⟩ : Memory) trivial
      (opensFreely_memory {} ⟨image repeated⟩) with ⟨accepts, finds, _, _⟩
  rcases accepts.mpr ⟨repeated, within, rfl⟩ with ⟨store, accepted⟩
  rcases finds store accepted with ⟨_, records, recordsWithin, held, index⟩
  have same : records = repeated :=
    eq_of_image_eq (Config.payloadLimit_le {}) recordsWithin within held
  refine ⟨store, accepted, ?_⟩
  rw [index, same]
  decide

end Store

end PackedRecords
