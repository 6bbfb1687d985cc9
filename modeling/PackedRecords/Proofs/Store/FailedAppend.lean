import PackedRecords.Proofs.Store.FailedWrite
import PackedRecords.Proofs.Store.SessionPayloads

/-! # Failed appends

An append writes a header behind the last record and then the payload behind the header.
Where the header is refused the store is as it was, and whatever is done later leaves
the payloads that it should. Where the payload is refused the header stays. The index
does not lead to it, so that nothing is noticed before the medium is opened again; then
it counts as the header of a record.
-/

namespace PackedRecords

namespace Store

variable {δ : Type} [ByteDevice δ]

/-! ## The parts of an append -/

/-- The part of an append up to where the header has been written. -/
def writeHeader (key : EntityId) (payload : ByteArray) : StoreM δ Nat := do
  let offset ← onDevice ByteDevice.size
  let header : Header := ⟨key, UInt32.ofNat payload.size⟩
  onDevice (ByteDevice.writeAt offset header.encode)
  return offset

theorem append_eq_writeHeader (key : EntityId) (payload : ByteArray) :
    (append key payload : StoreM δ Unit) =
      (writeHeader key payload >>= fun offset =>
        onDevice (ByteDevice.writeAt (offset + headerSize) payload) >>= fun _ =>
        reindex (·.insert key offset) >>= fun _ =>
        count (Stats.countAppend (headerSize + payload.size))) := by
  simp only [append, writeHeader, bind_assoc, pure_bind]

variable [FaithfulDevice δ] {key : EntityId} {payload : ByteArray} {store after : Store δ}
  (sound : FaithfulDevice.Sound store.device)

theorem follows_writeHeader (key : EntityId) (payload : ByteArray) :
    Follows (δ := δ) (writeHeader key payload) (writeHeader key payload) :=
  (follows_onDevice FaithfulDevice.follows_size).bind fun _ =>
    (follows_onDevice (FaithfulDevice.follows_writeAt _ _)).bind fun _ =>
      Reflection.follows_pure _

theorem writeHeader_run (bytes : ByteArray) (index : Index) (config : Config) (stats : Stats)
    (isOpen : Bool) (key : EntityId) (payload : ByteArray) :
    writeHeader key payload (⟨⟨bytes⟩, index, config, stats, isOpen⟩ : Store Memory) =
      .ok bytes.size
        ⟨⟨bytes ++ Header.encode ⟨key, UInt32.ofNat payload.size⟩⟩, index, config, stats,
          isOpen⟩ := by
  rw [writeHeader, bind_of_ok (onDevice_run (Memory.size_run bytes)),
    bind_of_ok (onDevice_run (Memory.writeAt_run _ (Nat.le_refl bytes.size))),
    overwrite_at_end, pure_run]

include sound

/-- The header comes behind everything else, and only the bytes change. -/
theorem writeHeader_ok {offset : Nat} (ran : writeHeader key payload store = .ok offset after) :
    FaithfulDevice.Sound after.device ∧
      after.inMemory = store.withDevice ⟨FaithfulDevice.contents store.device ++
        Header.encode ⟨key, UInt32.ofNat payload.size⟩⟩ := by
  rcases (follows_writeHeader key payload).ok sound ran with ⟨afterSound, memoryRan⟩
  rcases store with ⟨device, index, config, stats, isOpen⟩
  have expected := writeHeader_run (FaithfulDevice.contents device) index config stats isOpen
    key payload
  exact ⟨afterSound, (EStateM.Result.ok.inj (memoryRan.symm.trans expected)).2⟩

theorem writeHeader_error {failure : StoreError}
    (failed : writeHeader key payload store = .error failure after) :
    FaithfulDevice.Sound after.device ∧ after.inMemory = store.inMemory := by
  rcases cases_of_bind_error failed with refused | ⟨offset, sized, ran, late⟩
  · exact inMemory_of_error .size .number rfl sound refused
  · rcases (follows_onDevice FaithfulDevice.follows_size).ok sound ran with
      ⟨sizedSound, memoryRan⟩
    have same : sized.inMemory = store.inMemory := (EStateM.Result.ok.inj memoryRan).2.symm
    rcases cases_of_bind_error late with refused | ⟨_, _, _, impossible⟩
    · rcases inMemory_of_error (.writeAt _ _) (fun _ => .done) rfl sizedSound refused with
        ⟨afterSound, unchanged⟩
      exact ⟨afterSound, unchanged.trans same⟩
    · cases impossible

/-- A failed append leaves everything as it was, or a header more. -/
theorem append_error {failure : StoreError}
    (failed : append key payload store = .error failure after) :
    FaithfulDevice.Sound after.device ∧
      (¬succeeds (writeHeader key payload store) → after.inMemory = store.inMemory) ∧
      (succeeds (writeHeader key payload store) →
        after.inMemory = store.withDevice ⟨FaithfulDevice.contents store.device ++
          Header.encode ⟨key, UInt32.ofNat payload.size⟩⟩) := by
  rw [append_eq_writeHeader] at failed
  rcases cases_of_bind_error failed with refused | ⟨offset, headed, ran, late⟩
  · rcases writeHeader_error sound refused with ⟨afterSound, same⟩
    rw [refused]
    exact ⟨afterSound, fun _ => same, fun impossible => by cases impossible⟩
  · rcases writeHeader_ok sound ran with ⟨headedSound, same⟩
    rcases cases_of_bind_error late with refused | ⟨_, _, _, impossible⟩
    · rcases inMemory_of_error (.writeAt _ _) (fun _ => .done) rfl headedSound refused with
        ⟨afterSound, unchanged⟩
      rw [ran]
      exact ⟨afterSound, fun impossible => absurd rfl impossible,
        fun _ => unchanged.trans same⟩
    · cases impossible

theorem index_of_append_error {failure : StoreError}
    (failed : append key payload store = .error failure after) :
    after.index = store.index ∧ after.isOpen = store.isOpen := by
  rcases append_error sound failed with ⟨_, unwritten, written⟩
  by_cases success : succeeds (writeHeader key payload store)
  · have same := written success
    exact ⟨congrArg (fun store => store.index) same, congrArg (fun store => store.isOpen) same⟩
  · have same := unwritten success
    exact ⟨congrArg (fun store => store.index) same, congrArg (fun store => store.isOpen) same⟩

omit [FaithfulDevice δ] sound in
/-- A put of a new key that gets no further than its append fails as the append does. -/
theorem append_error_of_put_error (isOpen : store.isOpen = true)
    (missing : store.index[key]? = none) (short : payload.size ≤ store.config.payloadLimit)
    {failure : StoreError} (failed : put key payload store = .error failure after)
    (interrupted : ¬succeeds (append key payload store)) :
    append key payload store = .error failure after := by
  rcases store with ⟨device, index, config, stats, _⟩
  cases isOpen
  rw [put_eq_append short device missing] at failed
  rcases cases_of_bind_error failed with refused | ⟨_, _, ran, _⟩
  · exact refused
  · rw [ran] at interrupted
    exact absurd rfl interrupted

end Store

/-- No look-up notices a failed append. -/
theorem Ledger.Describes.lookUp_of_append_error {δ : Type} [ByteDevice δ] [FaithfulDevice δ]
    {ledger : Ledger} {store after : Store δ} (describes : ledger.Describes store)
    (sound : FaithfulDevice.Sound store.device) {key : EntityId}
    (missing : store.index[key]? = none) {payload : ByteArray}
    (short : payload.size ≤ store.config.payloadLimit) {failure : StoreError}
    (failed : Store.put key payload store = .error failure after)
    (interrupted : ¬succeeds (Store.append key payload store)) (other : EntityId) :
    after.lookUp other = .ok (ledger.payload? other) := by
  by_cases same : other = key
  · have refused := Store.append_error_of_put_error describes.isOpen missing short failed
      interrupted
    rcases Store.index_of_append_error sound refused with ⟨sameIndex, sameOpen⟩
    have absent : after.index[key]? = none := by rw [sameIndex, missing]
    rw [same, payload?, if_neg (describes.not_mem_live_of_index missing)]
    exact Store.lookUp_of_absent (sameOpen.trans describes.isOpen) absent
  · exact describes.lookUp_of_append sound same missing failed

/-! ## A header that was left behind -/

section LeftBehind

variable (key : EntityId) {payload : ByteArray}

/-- A header alone is a record without a payload. -/
theorem Record.encode_of_size_eq_zero (nothing : payload.size = 0) :
    Header.encode ⟨key, UInt32.ofNat payload.size⟩ = Record.encode ⟨key, payload⟩ := by
  rw [encode_eq_header, ByteArray.size_eq_zero_iff.mp nothing, ByteArray.append_empty]
  rfl

/-- Opening takes the header for that of a record whose payload is missing. -/
theorem Store.openDevice_header {config : Config} {records : List Record}
    (within : AllWithin config.payloadLimit records)
    (short : payload.size ≤ config.payloadLimit) (something : 0 < payload.size) :
    let bytes := image records ++ Header.encode ⟨key, UInt32.ofNat payload.size⟩
    openDevice config (⟨bytes⟩ : Memory) =
      .error (.corruptRecord (image records).size
        (.payloadPastEnd ((image records).size + headerSize + payload.size)
          ((image records).size + headerSize)), ⟨bytes⟩) := by
  let header : Header := ⟨key, UInt32.ofNat payload.size⟩
  have small := Nat.le_trans short config.payloadLimit_le
  have unsigned : maxPayloadSize < 0x80000000 := by decide
  have positive := headerSize_pos
  have size : header.encode.size = headerSize := header.size_encode
  have decoded : Header.decode header.encode = header := Header.decode_encode header
  have length : header.length.toNat = payload.size := Record.toNat_length small
  have field : readBigEndian32 header.encode keySize = header.length :=
    congrArg Header.length decoded
  have stuck : ¬Readable config.payloadLimit header.encode := by
    intro readable
    have whole := readable.payload
    rw [decoded, length, size] at whole
    omega
  have fault : faultOf config.payloadLimit (image records).size header.encode =
      .payloadPastEnd ((image records).size + headerSize + payload.size)
        ((image records).size + headerSize) := by
    rw [faultOf, field, length, size, if_neg (Nat.lt_irrefl _), if_neg (by omega),
      if_neg (by omega)]
  intro bytes
  rw [← fault]
  exact openDevice_rest within stuck (by rw [size]; omega)

end LeftBehind

/-! ## Opening what a failed append has left -/

theorem Ledger.put_of_unused {ledger : Ledger} {key : EntityId} (unused : key ∉ ledger.live)
    (payload : ByteArray) : ledger.put key payload =
      ⟨ledger.records ++ [⟨key, payload⟩], ledger.live.insert key⟩ :=
  if_neg unused

variable {δ : Type} [Medium δ] [FaithfulMedium δ]

/-- Opening the medium under any limit that allows the payloads fails in one way. -/
def Session.Rejects (session : Session δ) (payloads : PayloadMap) (failure : StoreError) :
    Prop :=
  ∀ config answer reopened, session.reopen config = (answer, reopened) →
    (∀ failure, answer = .error failure → ¬failure.IsRefusal) →
    payloads.Within config.payloadLimit → answer = .error failure

section Healed

variable {ledger : Ledger} {payloads : PayloadMap} (accords : payloads.Accords ledger)
  (recorded : ∀ key ∈ ledger.live, key ∈ keysOf ledger.records) {key : EntityId}
  (unused : key ∉ ledger.live) {payload : ByteArray} {session : Session δ}
  (sound : FaithfulDevice.Sound session.device)
  (held : FaithfulDevice.contents session.device =
    image ledger.records ++ Header.encode ⟨key, UInt32.ofNat payload.size⟩)
include accords recorded unused sound held

/-- A header without a payload to follow brings its key into use. -/
theorem Session.reopens_header (within : AllWithin maxPayloadSize ledger.records)
    (nothing : payload.size = 0) : session.Reopens (payloads.insert key payload) := by
  have bytes : image (ledger.put key payload).records =
      image ledger.records ++ Header.encode ⟨key, UInt32.ofNat payload.size⟩ := by
    rw [Ledger.put_of_unused unused, Record.encode_of_size_eq_zero key nothing, image_append,
      image_cons, image_nil, ByteArray.append_empty]
  have putWithin : AllWithin maxPayloadSize (ledger.put key payload).records := by
    rw [Ledger.put_of_unused unused, AllWithin, List.forall_mem_append]
    refine ⟨within, ?_⟩
    intro record member
    cases List.mem_singleton.mp member
    exact Nat.le_trans (Nat.le_of_eq nothing) (Nat.zero_le _)
  rcases Session.contents_drop sound with ⟨dropSound, kept⟩
  have accounts : LedgerSession.Accounts ⟨ledger.put key payload, .vacant⟩
      (.vacant session.drop : Session δ) :=
    ⟨dropSound, .vacant ((kept.trans held).trans bytes.symm) putWithin⟩
  exact accounts.reopens (accords.put recorded key payload)

theorem Session.rejects_header (something : 0 < payload.size) :
    session.Rejects (payloads.insert key payload)
      (.corruptRecord (image ledger.records).size
        (.payloadPastEnd ((image ledger.records).size + headerSize + payload.size)
          ((image ledger.records).size + headerSize))) := by
  intro config answer reopened ran served allowed
  have putWithin := (accords.put recorded key payload).allWithin allowed
  rw [Ledger.put_of_unused unused, AllWithin, List.forall_mem_append] at putWithin
  rcases putWithin with ⟨within, short⟩
  have failed := Store.openDevice_header key within
    (short ⟨key, payload⟩ List.mem_cons_self) something
  rcases Session.contents_drop sound with ⟨dropSound, kept⟩
  rw [Session.reopen] at ran
  have startServed : ∀ failure, (Session.start config session.drop).1 = .error failure →
      ¬failure.IsRefusal := by
    rw [ran]
    exact served
  have reflected := (Session.start_inMemory dropSound startServed).2
  rw [ran, kept, held, Session.start, Medium.openStore_memory, failed] at reflected
  exact (Prod.mk.inj reflected).1.symm

end Healed

/-- A session that has started on an empty medium puts a new key, and the append fails. No
look-up notices. As soon as the medium serves every call again, all depends on whether
the header has been written. If not, everything that is done later leaves the payloads
of the successful operations to the next opening. If it has been, an empty payload is
there after the next opening although the put has failed, and any other payload makes
the next opening fail. -/
theorem failed_append {config : Config} {device : δ} {session : Session δ}
    (sound : FaithfulDevice.Sound device)
    (empty : FaithfulDevice.contents device = ByteArray.empty)
    (started : Session.start config device = (.ok (), session)) {earlier : List SessionStep}
    (served : ∀ answer ∈ (session.runAll earlier).1, ¬answer.IsRefusal)
    {store after : Store δ} (reached : (session.runAll earlier).2 = .opened store)
    (isOpen : store.isOpen = true) {key : EntityId} (missing : store.index[key]? = none)
    {payload : ByteArray} (short : payload.size ≤ store.config.payloadLimit)
    {failure : StoreError} (failed : Store.put key payload store = .error failure after)
    (interrupted : ¬succeeds (Store.append key payload store)) :
    let payloads := PayloadMap.afterSteps ∅ earlier (session.runAll earlier).1
    let size := (FaithfulDevice.contents store.device).size
    (∀ other, after.lookUp other = .ok payloads[other]?) ∧
      ∀ healed : Store δ, FaithfulDevice.Sound healed.device →
        healed.inMemory = after.inMemory →
          (¬succeeds (Store.writeHeader key payload store) → ∀ later,
            (∀ answer ∈ ((Session.opened healed).runAll later).1, ¬answer.IsRefusal) →
              ((Session.opened healed).runAll later).2.Reopens
                (payloads.afterSteps later ((Session.opened healed).runAll later).1)) ∧
          (succeeds (Store.writeHeader key payload store) →
            (payload.size = 0 →
              (Session.opened healed).Reopens (payloads.insert key payload)) ∧
            (0 < payload.size →
              (Session.opened healed).Rejects (payloads.insert key payload)
                (.corruptRecord size (.payloadPastEnd (size + headerSize + payload.size)
                  (size + headerSize))))) := by
  intro payloads size
  rcases LedgerSession.exists_accounts_of_empty sound empty started served with
    ⟨account, accounts, accords⟩
  rw [reached] at accounts
  have storeSound : FaithfulDevice.Sound store.device := accounts.sound
  have describes : account.ledger.Describes store := by
    have opened := accounts.describes_opened
    rwa [show { store with isOpen := true } = store by rw [← isOpen]] at opened
  have within := describes.within.mono store.config.payloadLimit_le
  have unused := describes.not_mem_live_of_index missing
  have refused := Store.append_error_of_put_error isOpen missing short failed interrupted
  rcases Store.append_error storeSound refused with ⟨_, unwritten, written⟩
  refine ⟨?_, ?_⟩
  · intro other
    rw [accords.agrees]
    exact describes.lookUp_of_append_error storeSound missing short failed interrupted other
  · intro healed healedSound same
    refine ⟨?_, ?_⟩
    · intro noHeader later laterServed
      have healedAccounts : account.Accounts (.opened healed) := by
        refine ⟨healedSound, ?_⟩
        rw [Session.inMemory, same, unwritten noHeader]
        exact accounts.describes
      exact (healedAccounts.runAll laterServed).2.reopens
        (healedAccounts.accords_runAll accords laterServed)
    · intro header
      have held : FaithfulDevice.contents healed.device = image account.ledger.records ++
          Header.encode ⟨key, UInt32.ofNat payload.size⟩ := by
        rw [← describes.contents]
        exact congrArg (fun store => store.device.bytes) (same.trans (written header))
      have sameSize : size = (image account.ledger.records).size := describes.size_contents
      rw [sameSize]
      exact ⟨Session.reopens_header accords describes.recorded unused healedSound held within,
        Session.rejects_header accords describes.recorded unused healedSound held⟩

/-- An empty store on a device that serves only some writes. -/
def emptyWithWrites (writes : Nat) : Store (Faulty Memory) :=
  ⟨⟨⟨ByteArray.empty⟩, [(.writeAt, writes)]⟩, ∅, {}, {}, true⟩

/-- The store with two writes when it has put one record. -/
def withoutWrites : Store (Faulty Memory) :=
  ⟨⟨⟨image [⟨.replicate 1, ⟨#[97]⟩⟩]⟩, [(.writeAt, 0)]⟩, (∅ : Index).insert (.replicate 1) 0,
    {}, Stats.countAppend 21 {}, true⟩

/-- The header of a second key is refused. The put succeeds as soon as writes are served
again, and both keys are there after the next opening. -/
theorem failed_append_without_header :
    ∃ session store failure after,
      Session.start {} (⟨⟨.empty⟩, [(.writeAt, 2)]⟩ : Faulty Memory) = (.ok (), session) ∧
      (session.runAll [.operate (.put (.replicate 1) ⟨#[97]⟩)]).2 = .opened store ∧
      Store.put (.replicate 2) ⟨#[98]⟩ store = .error failure after ∧
      (((Session.opened after).onDevice (Medium.setBudgets [])).runAll
          [.operate (.put (.replicate 2) ⟨#[98]⟩)]).2.Reopens
        (((∅ : PayloadMap).insert (.replicate 1) ⟨#[97]⟩).insert (.replicate 2) ⟨#[98]⟩) := by
  have started : Session.start {} (⟨⟨.empty⟩, [(.writeAt, 2)]⟩ : Faulty Memory) =
      (.ok (), .opened (emptyWithWrites 2)) := by cbv
  have ran : (Session.opened (emptyWithWrites 2)).runAll
      [.operate (.put (.replicate 1) ⟨#[97]⟩)] =
        ([.operated (some (.ok .done))], .opened withoutWrites) := by cbv
  have failed : Store.put (.replicate 2) ⟨#[98]⟩ withoutWrites =
      .error (.device (Faulty.refusal .writeAt)) withoutWrites := by cbv
  have retried : (((Session.opened withoutWrites).onDevice (Medium.setBudgets [])).runAll
      [.operate (.put (.replicate 2) ⟨#[98]⟩)]).1 = [.operated (some (.ok .done))] := by cbv
  have missing : withoutWrites.index[EntityId.replicate 2]? = none := by cbv
  have noHeader : ¬succeeds (Store.writeHeader (.replicate 2) ⟨#[98]⟩ withoutWrites) := by decide
  have interrupted : ¬succeeds (Store.append (.replicate 2) ⟨#[98]⟩ withoutWrites) := by decide
  have served : ∀ answer ∈ ((Session.opened (emptyWithWrites 2)).runAll
      [.operate (.put (.replicate 1) ⟨#[97]⟩)]).1, ¬answer.IsRefusal := by
    rw [ran]
    simp [SessionAnswer.IsRefusal]
  have retryServed : ∀ answer ∈ (((Session.opened withoutWrites).onDevice
      (Medium.setBudgets [])).runAll [.operate (.put (.replicate 2) ⟨#[98]⟩)]).1,
        ¬answer.IsRefusal := by
    rw [retried]
    simp [SessionAnswer.IsRefusal]
  have reached := congrArg Prod.snd ran
  have reopens := ((failed_append trivial rfl started served reached rfl missing (by decide) failed
    interrupted).2 (withoutWrites.withDevice (Medium.setBudgets [] withoutWrites.device))
      trivial rfl).1 noHeader _ retryServed
  change Session.Reopens _ (PayloadMap.afterSteps _ _ (((Session.opened withoutWrites).onDevice
    (Medium.setBudgets [])).runAll _).1) at reopens
  rw [ran, retried] at reopens
  exact ⟨_, withoutWrites, _, _, started, reached, failed, reopens⟩

/-- The header of a second key is written, but its payload is refused. The put succeeds
as soon as writes are served again, and its key is found; but the next opening fails. -/
theorem failed_append_keeps_from_opening :
    ∃ session failing, Session.start {} (⟨⟨.empty⟩, [(.writeAt, 3)]⟩ : Faulty Memory) =
        (.ok (), session) ∧
      session.runAll [.operate (.put (.replicate 1) ⟨#[97]⟩),
          .operate (.put (.replicate 2) ⟨#[98]⟩)] =
        ([.operated (some (.ok .done)),
          .operated (some (.error (.device (Faulty.refusal .writeAt))))], failing) ∧
      ((failing.onDevice (Medium.setBudgets [])).runAll
          [.operate (.put (.replicate 2) ⟨#[98]⟩), .operate (.get (.replicate 2)),
            .reopen {}]).1 =
        [.operated (some (.ok .done)), .operated (some (.ok (.payload (some ⟨#[98]⟩)))),
          .reopened (.error (.corruptRecord 42 (.payloadPastEnd 416 62)))] := by
  refine ⟨.opened (emptyWithWrites 3), ((Session.opened (emptyWithWrites 3)).runAll
    [.operate (.put (.replicate 1) ⟨#[97]⟩), .operate (.put (.replicate 2) ⟨#[98]⟩)]).2,
    ?_, ?_, ?_⟩
  · cbv
  · cbv
  · cbv

end PackedRecords
