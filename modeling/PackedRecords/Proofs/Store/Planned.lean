import PackedRecords.Proofs.Store.InMemory
import PackedRecords.Proofs.Store.Plans
import PackedRecords.Proofs.Store.Following

/-! # What store operations plan

What an operation means to do can be told from the bytes, the index and the settings
before it. Every operation on a faithful device carries out its plan.
-/

namespace PackedRecords

/-! ## Calls of a shift -/

/-- The calls that copy `remaining` bytes up by `distance`. -/
def copyUpCalls (buffer : Nat) (positive : 0 < buffer) (source distance remaining : Nat) :
    List TracedCall :=
  if remaining = 0 then []
  else
    let chunk := min remaining buffer
    let front := source + (remaining - chunk)
    .readInto front chunk :: .writeAt (front + distance) chunk ::
      copyUpCalls buffer positive source distance (remaining - chunk)
termination_by remaining

/-- The calls that copy `remaining` bytes down by `distance`. -/
def copyDownCalls (buffer : Nat) (positive : 0 < buffer) (source distance remaining : Nat) :
    List TracedCall :=
  if remaining = 0 then []
  else
    let chunk := min remaining buffer
    .readInto source chunk :: .writeAt (source - distance) chunk ::
      copyDownCalls buffer positive (source + chunk) distance (remaining - chunk)
termination_by remaining

/-- The calls that move the bytes from `source` to the end, of which there are `size`. -/
def moveCalls (buffer : Nat) (positive : 0 < buffer) (size source : Nat) (delta : Int) :
    List TracedCall :=
  match delta with
  | .ofNat 0 => []
  | .ofNat distance =>
      .extend distance :: copyUpCalls buffer positive source distance (size - source)
  | .negSucc below =>
      copyDownCalls buffer positive source (below + 1) (size - source) ++
        [.truncate (size - (below + 1))]

/-! ## Plans -/

namespace Store

variable (store : Store Memory)

/-- The length noted for the record at `offset`, if it is acceptable. -/
def measure (offset : Nat) : Except Corruption Nat :=
  validateLength (readBigEndian32 store.device.bytes (offset + keySize))
    store.config.payloadLimit

def whenOpen (plan : List PlanStep) : List PlanStep :=
  if store.isOpen then plan else [.refuse]

theorem calls_whenOpen_subset (plan : List PlanStep) :
    PlanStep.calls (store.whenOpen plan) ⊆ PlanStep.calls plan := by
  rw [whenOpen]
  split
  · exact List.Subset.refl _
  · exact List.nil_subset _

theorem updates_whenOpen_subset (plan : List PlanStep) :
    PlanStep.updates (store.whenOpen plan) ⊆ PlanStep.updates plan := by
  rw [whenOpen]
  split
  · exact List.Subset.refl _
  · exact List.nil_subset _

def measurePlan (offset : Nat) : List PlanStep :=
  .call (.readInto (offset + keySize) lengthSize) ::
    match store.measure offset with
    | .ok _ => []
    | .error _ => [.refuse]

/-- The calls that move the tail of the store, once its size is known. -/
def tailCalls (source : Nat) (delta : Int) : List TracedCall :=
  moveCalls store.config.shiftBufferLength store.config.shiftBufferLength_pos
    store.device.bytes.size source delta

def movePlan (source : Nat) (delta : Int) : List PlanStep :=
  .call .size ::
    if store.device.bytes.size < source then [.refuse]
    else (store.tailCalls source delta).map .call

def shiftPlan (source : Nat) (delta : Int) : List PlanStep :=
  store.movePlan source delta ++ [.reindex (·.shiftFrom source delta)]

def syncCalls (config : Config) : List TracedCall :=
  if config.syncOnWrite then [.sync] else []

theorem eq_sync_of_mem {config : Config} {call : TracedCall} (member : call ∈ syncCalls config) :
    call = .sync := by
  rw [syncCalls] at member
  split at member
  · exact List.mem_singleton.mp member
  · cases member

def appendPlan (key : EntityId) (payload : ByteArray) : List PlanStep :=
  let offset := store.device.bytes.size
  [.call .size, .call (.writeAt offset headerSize),
    .call (.writeAt (offset + headerSize) payload.size), .reindex (·.insert key offset),
    .count (Stats.countAppend (headerSize + payload.size))]

def updatePlan (offset : Nat) (payload : ByteArray) : List PlanStep :=
  store.measurePlan offset ++
    match store.measure offset with
    | .error _ => []
    | .ok length =>
        if length = payload.size then
          [.call (.writeAt (offset + headerSize) payload.size),
            .count (Stats.countInPlaceUpdate payload.size)]
        else
          let source := offset + headerSize + length
          store.shiftPlan source (payload.size - length : Int) ++
            [.count (Stats.countShift (store.device.bytes.size - source)),
              .call (.writeAt (offset + keySize) lengthSize),
              .call (.writeAt (offset + headerSize) payload.size),
              .count (Stats.countShiftedUpdate (headerSize + payload.size))]

def putPlan (key : EntityId) (payload : ByteArray) : List PlanStep :=
  if store.config.payloadLimit < payload.size then [.refuse]
  else
    store.whenOpen <|
      (match store.index[key]? with
      | none => store.appendPlan key payload
      | some offset => store.updatePlan offset payload) ++ (syncCalls store.config).map .call

def removePlan (key : EntityId) : List PlanStep :=
  match store.index[key]? with
  | none => []
  | some offset =>
      .reindex (·.erase key) :: (store.measurePlan offset ++
        match store.measure offset with
        | .error _ => []
        | .ok length =>
            let recordSize := headerSize + length
            let source := offset + recordSize
            store.shiftPlan source (-(recordSize : Int)) ++ ((syncCalls store.config).map .call ++
              [.count (Stats.countShift (store.device.bytes.size - source)),
                .count Stats.countRemove]))

def getPlan (key : EntityId) : List PlanStep :=
  match store.index[key]? with
  | none => []
  | some offset =>
      let length := (readBigEndian32 store.device.bytes (offset + keySize)).toNat
      [.call (.readInto (offset + keySize) lengthSize),
        .call (.readAt (offset + headerSize) length), .count (Stats.countRead length)]

end Store

def StoreOperation.plan : StoreOperation → Store Memory → List PlanStep
  | put key payload, store => store.putPlan key payload
  | get key, store => .count Stats.countLookup :: store.whenOpen (store.getPlan key)
  | remove key, store => store.whenOpen (store.removePlan key)
  | contains _, store | offsetOf _, store | length, store | isEmpty, store | keys, store =>
      store.whenOpen []
  | fileSize, store => store.whenOpen [.call .size]
  | scan, store =>
      store.whenOpen
        (store.index.byOffset.map fun entry =>
          .call (.readInto (entry.2 + keySize) lengthSize))
  | flush, store => store.whenOpen [.call .flush]
  | sync, store => store.whenOpen [.call .sync]
  | close, store => if store.isOpen then [.call .flush] else []

/-! ## What is known after a call -/

theorem Memory.readInto_ok {memory after : Memory} {offset length : Nat} {bytes : ByteArray}
    (ran : ByteDevice.readInto offset length memory = .ok bytes after) :
    after = memory ∧ offset + length ≤ memory.bytes.size ∧
      bytes = memory.bytes.extract offset (offset + length) := by
  change read offset length memory = _ at ran
  simp only [read] at ran
  split at ran
  · cases ran
    exact ⟨rfl, ‹_›, rfl⟩
  · cases ran

theorem readBigEndian32_extract (bytes : ByteArray) (offset : Nat) :
    readBigEndian32 (bytes.extract offset (offset + lengthSize)) 0 =
      readBigEndian32 bytes offset := by
  have width : lengthSize = 4 := rfl
  simp only [readBigEndian32, byteAt_extract]
  simp (disch := omega) only [if_pos, Nat.add_zero, Nat.zero_add]

namespace Store

variable {δ α β : Type}

theorem onDevice_ok {call : DeviceM δ α} {store middle : Store δ} {value : α}
    (ran : onDevice call store = .ok value middle) :
    ∃ device, call store.device = .ok value device ∧ middle = { store with device } := by
  rcases store with ⟨device, index, config, stats, isOpen⟩
  cases called : call device with
  | ok other after =>
      simp only [onDevice, called] at ran
      cases ran
      exact ⟨after, rfl, rfl⟩
  | error failure after =>
      simp only [onDevice, called] at ran
      cases ran

theorem onDevice_bind (first : DeviceM δ α) (next : α → DeviceM δ β) :
    onDevice (first >>= next) = onDevice first >>= fun value => onDevice (next value) := by
  funext ⟨device, index, config, stats, isOpen⟩
  cases ran : first device with
  | ok value after =>
      rw [bind_of_ok (onDevice_run ran), onDevice, bind_of_ok ran]
      rfl
  | error failure after =>
      simp only [onDevice, bind_of_error ran]
      exact (bind_of_error (by simp only [onDevice, ran])).symm

variable [ByteDevice δ] [FaithfulDevice δ] {store middle : Store δ}

@[simp] theorem inMemory_index : store.inMemory.index = store.index := rfl

@[simp] theorem inMemory_config : store.inMemory.config = store.config := rfl

theorem config_of_inMemory (same : middle.inMemory = store.inMemory) :
    middle.config = store.config :=
  congrArg (fun seen : Store Memory => seen.config) same

/-- Looking at the length of a record answers what is noted there and changes nothing. -/
theorem readLength_ok (sound : FaithfulDevice.Sound store.device) {offset : Nat}
    {number : UInt32} (ran : readLength offset store = .ok number middle) :
    FaithfulDevice.Sound middle.device ∧ middle.inMemory = store.inMemory ∧
      number = readBigEndian32 store.inMemory.device.bytes (offset + keySize) := by
  rcases (follows_readLength offset).ok sound ran with ⟨middleSound, memoryRan⟩
  rcases exists_of_bind_ok memoryRan with ⟨bytes, after, read, returned⟩
  rcases onDevice_ok read with ⟨memory, called, rfl⟩
  rcases Memory.readInto_ok called with ⟨rfl, _, rfl⟩
  rw [readBigEndian32_extract, pure_run] at returned
  rcases EStateM.Result.ok.inj returned with ⟨sameNumber, sameStore⟩
  exact ⟨middleSound, sameStore.symm, sameNumber.symm⟩

theorem readValidLength_ok (sound : FaithfulDevice.Sound store.device) {offset length : Nat}
    (ran : readValidLength offset store = .ok length middle) :
    FaithfulDevice.Sound middle.device ∧ middle.inMemory = store.inMemory ∧
      store.inMemory.measure offset = .ok length := by
  rcases exists_of_bind_ok ran with ⟨number, after, read, expected⟩
  rcases readLength_ok sound read with ⟨afterSound, same, rfl⟩
  rw [bind_of_ok (view_run _ after), config_of_inMemory same] at expected
  change expectLength offset (store.inMemory.measure offset) after = _ at expected
  cases measured : store.inMemory.measure offset with
  | error fault =>
      rw [measured] at expected
      cases expected
  | ok other =>
      rw [measured] at expected
      cases expected
      exact ⟨afterSound, same, rfl⟩

/-- A shift that comes to its end returns the length of the tail. -/
theorem shiftTail_ok {buffer : Nat} {positive : 0 < buffer} {source : Nat} {delta : Int}
    {memory after : Memory} {moved : Nat}
    (ran : shiftTail buffer positive source delta memory = .ok moved after) :
    source ≤ memory.bytes.size ∧ moved = memory.bytes.size - source := by
  rw [shiftTail, bind_of_ok (Memory.size_run _)] at ran
  by_cases past : memory.bytes.size < source
  · rw [if_pos past, bind_of_error (throw_run _)] at ran
    cases ran
  · rw [if_neg past] at ran
    refine ⟨Nat.le_of_not_lt past, ?_⟩
    rcases delta with (_ | distance) | below
    · cases ran
      rfl
    all_goals
      rcases exists_of_bind_ok ran with ⟨_, _, _, rest⟩
      rcases exists_of_bind_ok rest with ⟨_, _, _, returned⟩
      cases returned
      rfl

theorem shiftAfter_ok (sound : FaithfulDevice.Sound store.device) {source moved : Nat}
    {delta : Int} (ran : shiftAfter source delta store = .ok moved middle) :
    FaithfulDevice.Sound middle.device ∧ moved = store.inMemory.device.bytes.size - source := by
  rcases (follows_shiftAfter source delta).ok sound ran with ⟨middleSound, memoryRan⟩
  rw [shiftAfter, bind_of_ok (view_run _ _)] at memoryRan
  rcases exists_of_bind_ok memoryRan with ⟨length, after, shifted, rest⟩
  rcases onDevice_ok shifted with ⟨memory, called, rfl⟩
  rcases exists_of_bind_ok rest with ⟨_, _, _, returned⟩
  rcases EStateM.Result.ok.inj returned with ⟨rfl, _⟩
  exact ⟨middleSound, (shiftTail_ok called).2⟩

theorem size_ok (sound : FaithfulDevice.Sound store.device) {size : Nat}
    (ran : onDevice ByteDevice.size store = .ok size middle) :
    FaithfulDevice.Sound middle.device ∧ middle.inMemory = store.inMemory ∧
      size = store.inMemory.device.bytes.size := by
  rcases (follows_onDevice FaithfulDevice.follows_size).ok sound ran with
    ⟨middleSound, memoryRan⟩
  rcases EStateM.Result.ok.inj memoryRan with ⟨sameSize, sameStore⟩
  exact ⟨middleSound, sameStore.symm, sameSize.symm⟩

end Store

/-! ## Parts of operations -/

namespace Store

variable {δ : Type} [ByteDevice δ] [FaithfulDevice δ] {store : Store (Logged δ)}
  (sound : FaithfulDevice.Sound store.device)

omit [FaithfulDevice δ] in
theorem carriesOut_readLength (offset : Nat) :
    CarriesOut [.call (.readInto (offset + keySize) lengthSize)] (readLength offset) store :=
  (carriesOut_lift _ _).wrapped _

omit [FaithfulDevice δ] in
theorem carriesOut_syncIfConfigured {config : Config} (same : store.config = config) :
    CarriesOut ((syncCalls config).map .call) syncIfConfigured store := by
  refine CarriesOut.of_ok ?_ (view_run _ store)
  rw [syncCalls, same]
  cases config.syncOnWrite with
  | true => exact carriesOut_lift _ _
  | false => exact carriesOut_pure ()

theorem CarriesOut.whenOpen {α : Type} {plan : List PlanStep} {next : Unit → StoreM (Logged δ) α}
    (carries : CarriesOut plan (next ()) store) :
    CarriesOut (store.inMemory.whenOpen plan) (requireOpen >>= next) store := by
  rcases store with ⟨device, index, config, stats, isOpen⟩
  cases isOpen with
  | true => exact carries.of_ok (requireOpen_run device)
  | false => exact ⟨rfl, [], (List.append_nil _).symm, .refused⟩

include sound

theorem carriesOut_readValidLength (offset : Nat) :
    CarriesOut (store.inMemory.measurePlan offset) (readValidLength offset) store := by
  refine (carriesOut_readLength offset).bind fun number middle ran => ?_
  rcases readLength_ok sound ran with ⟨_, same, rfl⟩
  refine CarriesOut.of_ok ?_ (view_run _ middle)
  rw [config_of_inMemory same]
  change CarriesOut _ (expectLength offset (store.inMemory.measure offset)) middle
  cases store.inMemory.measure offset with
  | ok length => exact carriesOut_pure length
  | error fault => exact carriesOut_throw _

theorem carriesOut_copyChunk (origin destination length : Nat) :
    CarriesOut [.call (.readInto origin length), .call (.writeAt destination length)]
      (onDevice (copyChunk origin destination length)) store := by
  rw [copyChunk, onDevice_bind]
  refine (carriesOut_lift _ _).bind fun bytes middle ran => ?_
  have size : bytes.size = length := by
    rcases (follows_onDevice (FaithfulDevice.follows_readInto _ _)).ok sound ran with ⟨_, memoryRan⟩
    rcases onDevice_ok memoryRan with ⟨memory, called, _⟩
    rcases Memory.readInto_ok called with ⟨_, inside, rfl⟩
    rw [ByteArray.size_extract]
    omega
  rw [← size]
  exact carriesOut_lift _ _

theorem carriesOut_copyUp (buffer : Nat) (positive : 0 < buffer)
    (source distance remaining : Nat) :
    CarriesOut ((copyUpCalls buffer positive source distance remaining).map .call)
      (onDevice (copyUp buffer positive source distance remaining)) store := by
  induction remaining using Nat.strongRecOn generalizing store with
  | ind remaining induction =>
      rw [copyUp, copyUpCalls]
      split
      · exact carriesOut_pure ()
      · rw [onDevice_bind]
        refine (carriesOut_copyChunk sound _ _ _).bind fun _ middle ran => ?_
        have copied := (follows_onDevice (FaithfulDevice.follows_copyChunk _ _ _)).ok sound ran
        exact induction _ (by omega) copied.1

theorem carriesOut_copyDown (buffer : Nat) (positive : 0 < buffer)
    (source distance remaining : Nat) :
    CarriesOut ((copyDownCalls buffer positive source distance remaining).map .call)
      (onDevice (copyDown buffer positive source distance remaining)) store := by
  induction remaining using Nat.strongRecOn generalizing store source with
  | ind remaining induction =>
      rw [copyDown, copyDownCalls]
      split
      · exact carriesOut_pure ()
      · rw [onDevice_bind]
        refine (carriesOut_copyChunk sound _ _ _).bind fun _ middle ran => ?_
        have copied := (follows_onDevice (FaithfulDevice.follows_copyChunk _ _ _)).ok sound ran
        exact induction _ (by omega) copied.1 _

theorem carriesOut_shiftTail {buffer : Nat} {positive : 0 < buffer} (source : Nat)
    (delta : Int)
    (same : buffer = store.config.shiftBufferLength) :
    CarriesOut (store.inMemory.movePlan source delta)
      (onDevice (shiftTail buffer positive source delta)) store := by
  subst same
  by_cases past : store.inMemory.device.bytes.size < source
  · rw [movePlan, if_pos past, shiftTail, onDevice_bind]
    refine (carriesOut_lift _ _).bind fun size middle ran => ?_
    rcases size_ok sound ran with ⟨_, _, rfl⟩
    rw [if_pos past]
    exact carriesOut_throw _
  · rw [movePlan, if_neg past, shiftTail, onDevice_bind]
    refine (carriesOut_lift _ _).bind fun size middle ran => ?_
    rcases size_ok sound ran with ⟨middleSound, _, rfl⟩
    rw [if_neg past]
    rcases delta with (_ | distance) | below
    · exact carriesOut_pure _
    · change CarriesOut (.call (.extend (distance + 1)) :: (copyUpCalls _ _ source (distance + 1)
        (store.inMemory.device.bytes.size - source)).map .call)
        (onDevice (ByteDevice.extend (distance + 1) >>= fun _ => _)) middle
      rw [onDevice_bind]
      refine (carriesOut_lift _ _).bind fun _ extended ran => ?_
      have extendedSound :=
        ((follows_onDevice (FaithfulDevice.follows_extend _)).ok middleSound ran).1
      rw [onDevice_bind]
      exact (carriesOut_copyUp extendedSound _ _ _ _ _).wrapped _
    · simp only [tailCalls, moveCalls, List.map_append]
      rw [onDevice_bind]
      refine (carriesOut_copyDown middleSound _ _ _ _ _).bind fun _ copied _ => ?_
      rw [onDevice_bind]
      exact (carriesOut_lift _ _).wrapped _

theorem carriesOut_shiftAfter (source : Nat) (delta : Int) :
    CarriesOut (store.inMemory.shiftPlan source delta) (shiftAfter source delta) store := by
  refine CarriesOut.of_ok ?_ (view_run _ store)
  refine (carriesOut_shiftTail sound source delta rfl).bind fun moved middle _ => ?_
  exact (carriesOut_reindex _).wrapped fun _ => moved

/-! ## Operations -/

theorem carriesOut_append (key : EntityId) (payload : ByteArray) :
    CarriesOut (store.inMemory.appendPlan key payload) (append key payload) store := by
  refine (carriesOut_lift _ _).bind fun offset middle ran => ?_
  rcases size_ok sound ran with ⟨_, _, rfl⟩
  have headerCall : TracedCall.writeAt store.inMemory.device.bytes.size headerSize =
      .writeAt store.inMemory.device.bytes.size
        (Header.encode ⟨key, UInt32.ofNat payload.size⟩).size :=
    congrArg _ (Header.size_encode _).symm
  rw [headerCall]
  exact (carriesOut_lift _ _).bind fun _ _ _ => (carriesOut_lift _ _).bind fun _ _ _ =>
    (carriesOut_reindex _).bind fun _ _ _ => carriesOut_count _

theorem carriesOut_update (offset : Nat) (payload : ByteArray) :
    CarriesOut (store.inMemory.updatePlan offset payload) (update offset payload) store := by
  refine (carriesOut_readValidLength sound offset).bind fun length middle ran => ?_
  rcases readValidLength_ok sound ran with ⟨middleSound, same, measured⟩
  rw [measured]
  simp only []
  by_cases fits : length = payload.size
  · rw [if_pos fits, if_pos fits]
    exact (carriesOut_lift _ _).bind fun _ _ _ => carriesOut_count _
  · rw [if_neg fits, if_neg fits]
    have shifts := carriesOut_shiftAfter middleSound (offset + headerSize + length)
      (payload.size - length)
    rw [same] at shifts
    refine shifts.bind fun moved after ran => ?_
    rcases shiftAfter_ok middleSound ran with ⟨_, rfl⟩
    rw [same]
    exact (carriesOut_count _).bind fun _ _ _ => (carriesOut_lift _ _).bind fun _ _ _ =>
      (carriesOut_lift _ _).bind fun _ _ _ => carriesOut_count _

theorem carriesOut_put (key : EntityId) (payload : ByteArray) :
    CarriesOut (store.inMemory.putPlan key payload) (put key payload) store := by
  refine CarriesOut.of_ok ?_ (view_run _ store)
  rw [putPlan, inMemory_config]
  by_cases large : store.config.payloadLimit < payload.size
  · rw [if_pos large, if_pos large]
    exact carriesOut_throw _
  · rw [if_neg large, if_neg large]
    refine CarriesOut.whenOpen (CarriesOut.of_ok ?_ (view_run _ store))
    rw [inMemory_index]
    cases store.index[key]? with
    | none =>
        have appends := carriesOut_append sound key payload
        exact appends.bind fun _ middle ran =>
          carriesOut_syncIfConfigured (appends.config_of_ok ran)
    | some offset =>
        have updates := carriesOut_update sound offset payload
        exact updates.bind fun _ middle ran =>
          carriesOut_syncIfConfigured (updates.config_of_ok ran)

theorem carriesOut_get (key : EntityId) :
    CarriesOut (.count Stats.countLookup :: store.inMemory.whenOpen (store.inMemory.getPlan key))
      (get key) store := by
  change CarriesOut ([.count Stats.countLookup] ++ _) _ _
  refine (carriesOut_count _).bind fun _ _ ran => ?_
  cases ran
  let counted : Store (Logged δ) := { store with stats := store.stats.countLookup }
  have countedSound : FaithfulDevice.Sound counted.device := sound
  refine CarriesOut.whenOpen (CarriesOut.of_ok ?_ (view_run _ counted))
  rw [getPlan, inMemory_index]
  cases store.index[key]? with
  | none => exact carriesOut_pure none
  | some offset =>
      refine (carriesOut_readLength offset).bind fun number middle ran => ?_
      rcases readLength_ok countedSound ran with ⟨_, _, rfl⟩
      exact (carriesOut_lift _ _).bind fun payload _ _ => (carriesOut_count _).wrapped _

theorem carriesOut_remove (key : EntityId) :
    CarriesOut (store.inMemory.whenOpen (store.inMemory.removePlan key)) (remove key) store := by
  refine CarriesOut.whenOpen (CarriesOut.of_ok ?_ (view_run _ store))
  rw [removePlan, inMemory_index]
  cases store.index[key]? with
  | none => exact carriesOut_pure false
  | some offset =>
      refine (carriesOut_reindex _).bind fun _ _ ran => ?_
      cases ran
      let erased : Store (Logged δ) := { store with index := store.index.erase key }
      have erasedSound : FaithfulDevice.Sound erased.device := sound
      refine (carriesOut_readValidLength erasedSound offset).bind fun length middle ran => ?_
      rcases readValidLength_ok erasedSound ran with ⟨middleSound, same, measured⟩
      -- The length is looked up without the index, so giving up the entry changes nothing.
      have measuredBefore : store.inMemory.measure offset = .ok length := measured
      rw [measuredBefore]
      have shifts := carriesOut_shiftAfter middleSound (offset + (headerSize + length))
        (-((headerSize + length : Nat) : Int))
      rw [same] at shifts
      refine shifts.bind fun moved after ran => ?_
      rcases shiftAfter_ok middleSound ran with ⟨_, rfl⟩
      rw [same]
      have sameErased : middle.config = erased.config := config_of_inMemory same
      have sameConfig : after.config = store.config := (shifts.config_of_ok ran).trans sameErased
      exact (carriesOut_syncIfConfigured sameConfig).bind fun _ _ _ =>
        (carriesOut_count _).bind fun _ _ _ => (carriesOut_count _).wrapped _

omit [FaithfulDevice δ] sound in
theorem carriesOut_mapM_recordInfo (entries : List (EntityId × Nat)) :
    CarriesOut (entries.map fun entry => .call (.readInto (entry.2 + keySize) lengthSize))
      (entries.mapM recordInfo) store := by
  induction entries generalizing store with
  | nil => exact carriesOut_pure []
  | cons entry rest induction =>
      rw [List.mapM_cons]
      refine ((carriesOut_readLength entry.2).wrapped _).bind fun info middle ran => ?_
      exact induction.wrapped _

omit [FaithfulDevice δ] sound in
theorem carriesOut_close :
    CarriesOut (if store.isOpen then [.call .flush] else []) close store := by
  rcases store with ⟨⟨device, log⟩, index, config, stats, isOpen⟩
  cases isOpen with
  | false => exact ⟨rfl, [], (List.append_nil _).symm, .done⟩
  | true =>
      cases flushed : ByteDevice.flush device with
      | ok value after =>
          have ran : (ByteDevice.flush : DeviceM (Logged δ) Unit) ⟨device, log⟩ =
              .ok value ⟨after, log ++ [TracedCall.flush.served]⟩ := by
            change Logged.lift .flush ByteDevice.flush ⟨device, log⟩ = _
            rw [Logged.lift, flushed]
          simp only [CarriesOut, close, ran, if_true]
          exact ⟨rfl, [TracedCall.flush.served], rfl, .served .done⟩
      | error failure after =>
          have ran : (ByteDevice.flush : DeviceM (Logged δ) Unit) ⟨device, log⟩ =
              .error failure ⟨after, log ++ [TracedCall.flush.refused]⟩ := by
            change Logged.lift .flush ByteDevice.flush ⟨device, log⟩ = _
            rw [Logged.lift, flushed]
          simp only [CarriesOut, close, ran, if_true]
          exact ⟨rfl, [TracedCall.flush.refused], rfl, .stopped⟩

end Store

/-- Every operation carries out its plan. -/
theorem StoreOperation.carriesOut {δ : Type} [ByteDevice δ] [FaithfulDevice δ]
    (operation : StoreOperation) {store : Store (Logged δ)}
    (sound : FaithfulDevice.Sound store.device) :
    Store.CarriesOut (operation.plan store.inMemory) operation.run store := by
  have looks {α : Type} (read : Store (Logged δ) → α) :
      Store.CarriesOut (store.inMemory.whenOpen [])
        (Store.requireOpen >>= fun _ => Store.view read) store :=
    .whenOpen ((Store.carriesOut_pure (read store)).of_ok (Store.view_run read store))
  cases operation with
  | put key payload => exact (Store.carriesOut_put sound key payload).wrapped _
  | get key => exact (Store.carriesOut_get sound key).wrapped _
  | remove key => exact (Store.carriesOut_remove sound key).wrapped _
  | contains key => exact (looks _).wrapped _
  | offsetOf key => exact (looks _).wrapped _
  | length => exact (looks _).wrapped _
  | isEmpty => exact ((looks _).wrapped _).wrapped _
  | keys => exact (looks _).wrapped _
  | fileSize => exact (Store.CarriesOut.whenOpen (Store.carriesOut_lift _ _)).wrapped _
  | scan =>
      refine (Store.CarriesOut.whenOpen ?_).wrapped _
      exact (Store.carriesOut_mapM_recordInfo store.index.byOffset).of_ok (Store.view_run _ store)
  | flush => exact (Store.CarriesOut.whenOpen (Store.carriesOut_lift _ _)).wrapped _
  | sync => exact (Store.CarriesOut.whenOpen (Store.carriesOut_lift _ _)).wrapped _
  | close => exact Store.carriesOut_close.wrapped _

end PackedRecords
