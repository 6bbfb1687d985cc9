import PackedRecords.Proofs.Reference.Check
import PackedRecords.Proofs.Store.SessionPayloads

/-! # The comparison is exact

Comparing a store with a map asks the store for nothing but the keys of the map, and
counts. That is enough: as many records as the map has keys, each of them found, leave
no room for another one. So the comparison passes exactly on the one map that has the
payloads of the store.
-/

namespace PackedRecords

open CheckM

/-! ## What a passed check says -/

theorem holds_of_require {δ α : Type} {condition : Bool} {mismatch : Mismatch}
    {rest : Unit → CheckM δ α} {store after : Store δ} {value : α}
    (ran : (require condition mismatch >>= rest) store = .ok value after) :
    condition = true ∧ rest () store = .ok value after := by
  cases condition with
  | true => exact ⟨rfl, ran⟩
  | false => cases ran

namespace Ledger

variable {ledger middle : Ledger} {limit : Nat} {store after : Store Memory}

/-- What follows a check that is known to pass goes on from a described store. -/
theorem Passes.exists_rest {α β : Type} {check : CheckM Memory α} {rest : α → CheckM Memory β}
    {value : α} {result : β} (first : ledger.Passes limit check value middle)
    (describes : ledger.Describes store) (sameLimit : store.config.payloadLimit = limit)
    (ran : (check >>= rest) store = .ok result after) :
    ∃ between, rest value between = .ok result after ∧ middle.Describes between ∧
      between.config.payloadLimit = limit := by
  rcases first store describes sameLimit with ⟨between, checked, betweenDescribes, betweenLimit⟩
  rw [bind_of_ok checked] at ran
  exact ⟨between, ran, betweenDescribes, betweenLimit⟩

theorem held_of_checkPayloads {entries : List (EntityId × ByteArray)}
    (describes : ledger.Describes store) (sameLimit : store.config.payloadLimit = limit)
    {rest : Unit → CheckM Memory Unit}
    (ran : (PayloadMap.checkPayloads entries >>= rest) store = .ok () after) :
    ∀ entry ∈ entries, ledger.payload? entry.1 = some entry.2 := by
  induction entries generalizing store with
  | nil => exact List.forall_mem_nil _
  | cons entry others induction =>
      rw [PayloadMap.checkPayloads, bind_assoc] at ran
      rcases (passes_get entry.1).exists_rest describes sameLimit ran with
        ⟨between, found, betweenDescribes, betweenLimit⟩
      rw [bind_assoc] at found
      rcases holds_of_require found with ⟨same, later⟩
      exact List.forall_mem_cons.mpr
        ⟨beq_iff_eq.mp same, induction betweenDescribes betweenLimit later⟩

end Ledger

/-! ## No room for another record -/

/-- A set that has all keys of a map and is no larger has no others. -/
theorem mem_iff_of_size_eq {β : Type} {map : Std.ExtTreeMap EntityId β compare}
    {keys : Std.ExtTreeSet EntityId compare} (size : keys.size = map.size)
    (among : ∀ key ∈ map, key ∈ keys) (key : EntityId) : key ∈ map ↔ key ∈ keys := by
  have subset : map.keys ⊆ keys.toList := by
    intro key member
    exact Std.ExtTreeSet.mem_toList.mpr (among key (Std.ExtTreeMap.mem_keys.mp member))
  have noLonger : keys.toList.length ≤ map.keys.length := by
    rw [Std.ExtTreeSet.length_toList, Std.ExtTreeMap.length_keys, size]
  have permutation : map.keys.Perm keys.toList :=
    (List.subperm_of_subset Std.ExtTreeMap.nodup_keys subset).perm_of_length_le noLonger
  rw [← Std.ExtTreeMap.mem_keys, permutation.mem_iff, Std.ExtTreeSet.mem_toList]

namespace PayloadMap

variable {payloads : PayloadMap} {ledger : Ledger}

/-- Payloads that the ledger leads to are all of them if they are as many as the keys in
use. -/
theorem agrees_of_held (recorded : ∀ key ∈ ledger.live, key ∈ keysOf ledger.records)
    (count : ledger.live.size = payloads.size)
    (held : ∀ entry ∈ payloads.toList, ledger.payload? entry.1 = some entry.2) :
    payloads.Agrees ledger := by
  have found (key : EntityId) (payload : ByteArray) (has : payloads[key]? = some payload) :
      ledger.payload? key = some payload :=
    held (key, payload) (Std.ExtTreeMap.mem_toList_iff_getElem?_eq_some.mpr has)
  have among : ∀ key ∈ payloads, key ∈ ledger.live := by
    intro key member
    rcases Option.isSome_iff_exists.mp (Std.ExtTreeMap.mem_iff_isSome_getElem?.mp member) with
      ⟨payload, has⟩
    have paid := Option.isSome_of_eq_some (found key payload has)
    exact (Ledger.isSome_payload?_iff recorded).mp paid
  intro key
  cases has : payloads[key]? with
  | some payload => exact (found key payload has).symm
  | none =>
      have unused : key ∉ ledger.live := by
        rw [← mem_iff_of_size_eq count among, Std.ExtTreeMap.mem_iff_isSome_getElem?, has]
        exact Bool.false_ne_true
      rw [Ledger.payload?, if_neg unused]

/-! ## Comparing -/

/-- In memory a comparison that passes has found the map of the ledger. -/
theorem agrees_of_verify {store after : Store Memory} (describes : ledger.Describes store)
    (passed : payloads.verify store = .ok () after) : payloads.Agrees ledger := by
  rw [verify] at passed
  rcases Ledger.passes_length.exists_rest describes rfl passed with
    ⟨counted, sizes, countedDescribes, sameLimit⟩
  rcases holds_of_require sizes with ⟨count, payloadsHeld⟩
  exact agrees_of_held describes.recorded (beq_iff_eq.mp count)
    (Ledger.held_of_checkPayloads countedDescribes sameLimit payloadsHeld)

/-- The comparison of a described store passes for the map of its ledger and no other. -/
theorem verify_iff_agrees {δ : Type} [ByteDevice δ] [FaithfulDevice δ] {store : Store δ}
    (sound : FaithfulDevice.Sound store.device) (describes : ledger.Describes store)
    (unshadowed : ∀ key, ledger.Unshadowed key)
    (served : ∀ mismatch after, payloads.verify store = .error mismatch after →
      ¬mismatch.IsRefusal) :
    (∃ after, payloads.verify store = .ok () after) ↔ payloads.Agrees ledger := by
  have memoryDescribes := Ledger.describes_inMemory.mpr describes
  constructor
  · intro ⟨after, passed⟩
    exact agrees_of_verify memoryDescribes ((follows_verify payloads).ok sound passed).2
  · intro agrees
    have within := describes.within.mono store.config.payloadLimit_le
    rcases agrees.passes_verify describes.recorded unshadowed within store.inMemory
      memoryDescribes rfl with ⟨seen, passed, _⟩
    rcases (follows_verify payloads).ok_of_reference sound served passed with ⟨after, ran, _⟩
    exact ⟨after, ran⟩

end PayloadMap

/-- A session that has started on an empty medium has an open store. Comparing this store
with any map passes exactly if looking up each key, in use or not, finds what the map has
for it. If it passes, the packed size of the map is that of the file. -/
theorem verify_exactly {δ : Type} [Medium δ] [FaithfulMedium δ] {config : Config} {device : δ}
    {session : Session δ} (sound : FaithfulDevice.Sound device)
    (empty : FaithfulDevice.contents device = ByteArray.empty)
    (started : Session.start config device = (.ok (), session)) {steps : List SessionStep}
    (served : ∀ answer ∈ (session.runAll steps).1, ¬answer.IsRefusal)
    {store : Store δ} (reached : (session.runAll steps).2 = .opened store)
    (isOpen : store.isOpen = true) (payloads : PayloadMap)
    (compared : ∀ mismatch after, payloads.verify store = .error mismatch after →
      ¬mismatch.IsRefusal) :
    ((∃ after, payloads.verify store = .ok () after) ↔
        ∀ key, store.lookUp key = .ok payloads[key]?) ∧
      ∀ after, payloads.verify store = .ok () after →
        payloads.packedSize = (FaithfulDevice.contents store.device).size := by
  rcases LedgerSession.exists_accounts_of_empty sound empty started served with
    ⟨account, accounts, accords⟩
  rw [reached] at accounts
  have describes := accounts.describes_of_isOpen isOpen
  have exactly := PayloadMap.verify_iff_agrees accounts.sound describes accords.unshadowed compared
  constructor
  · rw [exactly]
    constructor
    · intro agrees key
      rw [describes.lookUp_eq, agrees key]
    · intro found key
      have here := found key
      rw [describes.lookUp_eq] at here
      exact (Except.ok.inj here).symm
  · intro after passed
    rw [(exactly.mp ⟨after, passed⟩).packedSize_eq accords.unshadowed, describes.contents]

/-- The comparison of a store that has lost the first of its two records. It passes for
the map of the record that is left, so every look-up finds what this map has. -/
theorem verify_exactly_record_left :
    ∃ session store, Session.start {} (⟨.empty⟩ : Memory) = (.ok (), session) ∧
      (session.runAll [.operate (.put (.replicate 1) ⟨#[97]⟩),
        .operate (.put (.replicate 2) ⟨#[98, 99]⟩), .operate (.remove (.replicate 1)),
        .reopen {}]).2 = .opened store ∧
      (∃ after, (PayloadMap.ofRecords [⟨.replicate 2, ⟨#[98, 99]⟩⟩]).verify store =
        .ok () after) ∧
      ∀ key, store.lookUp key =
        .ok (PayloadMap.ofRecords [⟨.replicate 2, ⟨#[98, 99]⟩⟩])[key]? := by
  let payloads : PayloadMap := .ofRecords [⟨.replicate 2, ⟨#[98, 99]⟩⟩]
  let store : Store Memory := Store.opened {} [⟨.replicate 2, ⟨#[98, 99]⟩⟩]
  let steps : List SessionStep := [.operate (.put (.replicate 1) ⟨#[97]⟩),
    .operate (.put (.replicate 2) ⟨#[98, 99]⟩), .operate (.remove (.replicate 1)), .reopen {}]
  have started : Session.start {} (⟨.empty⟩ : Memory) = (.ok (), .opened (Store.opened {} [])) := by
    cbv
  have ran : (Session.opened (Store.opened {} [])).runAll steps =
      ([.operated (some (.ok .done)), .operated (some (.ok .done)),
        .operated (some (.ok (.flag true))), .reopened (.ok ())], .opened store) := by cbv
  have passed : succeeds (payloads.verify store) = true := by cbv
  rcases exists_of_succeeds passed with ⟨_, after, compared⟩
  have served : ∀ answer ∈ ((Session.opened (Store.opened {} [])).runAll steps).1,
      ¬answer.IsRefusal := by
    rw [ran]
    simp [SessionAnswer.IsRefusal]
  have unrefused : ∀ mismatch next, payloads.verify store = .error mismatch next →
      ¬mismatch.IsRefusal := by
    intro mismatch next impossible
    rw [compared] at impossible
    cases impossible
  have exactly := verify_exactly trivial rfl started served (congrArg Prod.snd ran) rfl payloads
    unrefused
  exact ⟨_, store, started, congrArg Prod.snd ran, ⟨after, compared⟩,
    exactly.1.mp ⟨after, compared⟩⟩

end PackedRecords
