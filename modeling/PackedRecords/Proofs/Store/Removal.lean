import PackedRecords.Proofs.Store.Shadowing

/-! # Removed keys

A removed key stays removed for as long as the store is open. Opening the medium again
brings it back exactly when the file still holds an earlier record of the key, which
the removed one had shadowed.
-/

namespace PackedRecords

namespace Ledger

/-- Operations on other keys leave the last payload of a key alone, and so does a
removal that finds no record of it. -/
theorem lastPayload?_apply {ledger : Ledger} {key : EntityId} {operation : StoreOperation}
    (notPut : ∀ payload, operation ≠ .put key payload)
    (notRemoved : operation = .remove key → key ∉ keysOf ledger.records) (limit : Nat) :
    lastPayload? key (ledger.apply limit operation).2.records =
      lastPayload? key ledger.records := by
  cases operation with
  | put other payload =>
      have different : other ≠ key := by
        intro same
        exact notPut payload (by rw [same])
      rw [apply]
      split
      · rfl
      · rw [put]
        split
        · exact lastPayload?_replaceLast different payload ledger.records
        · rw [lastPayload?_append, lastPayload?, if_neg different]
          rfl
  | remove other =>
      rw [apply, remove]
      split
      · by_cases same : other = key
        · subst same
          rw [eraseLast_of_not_mem (notRemoved rfl)]
        · exact lastPayload?_eraseLast same ledger.records
      · rfl
  | _ => rfl

/-- Only a new payload brings a key back into use. -/
theorem not_mem_live_apply {ledger : Ledger} {key : EntityId} {operation : StoreOperation}
    (notPut : ∀ payload, operation ≠ .put key payload) (unused : key ∉ ledger.live)
    (limit : Nat) : key ∉ (ledger.apply limit operation).2.live := by
  cases operation with
  | put other payload =>
      rw [apply]
      split
      · exact unused
      · rw [put]
        split
        · exact unused
        · intro member
          rcases Std.ExtTreeSet.mem_insert.mp member with same | earlier
          · exact notPut payload (by rw [Std.LawfulEqCmp.compare_eq_iff_eq.mp same])
          · exact unused earlier
  | remove other =>
      rw [apply, remove]
      split
      · intro member
        exact unused (Std.ExtTreeSet.mem_erase.mp member).2
      · exact unused
  | _ => exact unused

theorem not_mem_live_remove (ledger : Ledger) (key : EntityId) :
    key ∉ (ledger.remove key).live := by
  rw [remove]
  split
  · intro member
    exact (Std.ExtTreeSet.mem_erase.mp member).1 Std.ReflCmp.compare_self
  · assumption

/-- A removed key that was not shadowed has no record left. -/
theorem not_mem_keysOf_remove {ledger : Ledger} {key : EntityId}
    (once : (keysOf ledger.records).count key ≤ 1) (inUse : key ∈ ledger.live) :
    key ∉ keysOf (ledger.remove key).records := by
  have counted := count_keysOf_eraseLast key key ledger.records
  rw [if_pos rfl] at counted
  rw [remove, if_pos inUse]
  apply List.count_eq_zero.mp
  change (keysOf (eraseLast key ledger.records)).count key = 0
  omega

end Ledger

/-- Only a working store removes, and only a key in use. -/
theorem LedgerSession.exists_limit_of_removed {account : LedgerSession} {key : EntityId}
    (removed : (account.step (.operate (.remove key))).1 =
      .operated (some (.ok (.flag true)))) :
    ∃ limit, key ∈ account.ledger.live ∧
      (account.step (.operate (.remove key))).2 =
        ⟨account.ledger.remove key, .working limit⟩ := by
  rcases account with ⟨ledger, mode⟩
  cases mode with
  | vacant => cases removed
  | shut limit => cases removed
  | working limit =>
      refine ⟨limit, ?_, rfl⟩
      apply Std.ExtTreeSet.contains_iff_mem.mp
      injection removed with answer
      injection answer with answer
      injection answer with answer
      injection answer

/-! ## What a session says about a key -/

namespace Session

variable {δ : Type} [Medium δ]

/-- Whatever the session answers, it does not have the key. -/
def Lacks (session : Session δ) (key : EntityId) : Prop :=
  (∀ found, (session.step (.operate (.get key))).1 =
    .operated (some (.ok (.payload found))) → found = none) ∧
  (∀ holds, (session.step (.operate (.contains key))).1 =
    .operated (some (.ok (.flag holds))) → holds = false)

/-- The session has the key, and answers with the payload whenever it can be read. -/
def Shows (session : Session δ) (key : EntityId) (payload : ByteArray) : Prop :=
  (∀ found, (session.step (.operate (.get key))).1 =
    .operated (some (.ok (.payload found))) → found = some payload) ∧
  (session.step (.operate (.contains key))).1 = .operated (some (.ok (.flag true)))

end Session

namespace LedgerSession.Accounts

variable {δ : Type} [Medium δ] [FaithfulMedium δ] {account : LedgerSession}
  {session : Session δ} {key : EntityId}

theorem lacks (accounts : account.Accounts session)
    (unused : ∀ limit, account.mode = .working limit → key ∉ account.ledger.live) :
    session.Lacks key := by
  rcases account with ⟨ledger, mode⟩
  constructor
  · intro found answered
    have same := (accounts.step _ (by rw [answered]; exact id)).1
    rw [answered] at same
    cases mode with
    | vacant => cases same
    | shut limit => cases same
    | working limit =>
        have missing : ledger.payload? key = none := if_neg (unused limit rfl)
        cases same
        exact missing
  · intro holds answered
    have same := (accounts.step _ (by rw [answered]; exact id)).1
    rw [answered] at same
    cases mode with
    | vacant => cases same
    | shut limit => cases same
    | working limit =>
        have missing := mt Std.ExtTreeSet.contains_iff_mem.mp (unused limit rfl)
        cases same
        exact Bool.eq_false_iff.mpr missing

theorem shows {limit : Nat} (accounts : account.Accounts session)
    (working : account.mode = .working limit) (inUse : key ∈ account.ledger.live)
    {payload : ByteArray} (found : lastPayload? key account.ledger.records = some payload) :
    session.Shows key payload := by
  constructor
  · intro answer answered
    have same := (accounts.step _ (by rw [answered]; exact id)).1
    rcases account with ⟨ledger, mode⟩
    cases working
    rw [answered] at same
    cases same
    rw [Ledger.payload?, if_pos inUse]
    exact found
  · rcases accounts.exists_store working with ⟨store, rfl, describes, _⟩
    have contained := contains_eq_of_mem
      (Ledger.describes_inMemory.mpr describes).mem_index key
    rcases store with ⟨device, index, config, stats, isOpen⟩
    cases describes.isOpen
    change SessionAnswer.operated (some (.ok (.flag (index.contains key)))) = _
    change index.contains key = _ at contained
    rw [contained, Std.ExtTreeSet.contains_iff_mem.mpr inUse]

end LedgerSession.Accounts

/-! ## After a removal -/

theorem ne_put_of_mem {key : EntityId} {steps : List SessionStep}
    (noPut : ∀ payload, .operate (.put key payload) ∉ steps) {operation : StoreOperation}
    (member : .operate operation ∈ steps) (payload : ByteArray) :
    operation ≠ .put key payload := by
  intro same
  rw [same] at member
  exact noPut payload member

section Removed

variable {δ : Type} [Medium δ] [FaithfulMedium δ] {account : LedgerSession}
  {session : Session δ} {key : EntityId} {later : List SessionStep}
  (accounts : account.Accounts session)
  (noPut : ∀ payload, .operate (.put key payload) ∉ later)
  (served : ∀ answer ∈ (session.runAll later).1, ¬answer.IsRefusal)
include accounts noPut served

/-- A key out of use stays so until the medium is opened again. -/
theorem lacks_until_reopen (unused : key ∉ account.ledger.live)
    (noReopen : ∀ config, .reopen config ∉ later) : (session.runAll later).2.Lacks key := by
  have kept : key ∉ (account.runAll later).2.ledger.live := by
    refine LedgerSession.runAll_induction (motive := fun ledger => key ∉ ledger.live) ?_ ?_ unused
    · intro ledger limit operation member missing
      exact Ledger.not_mem_live_apply (ne_put_of_mem noPut member) missing limit
    · intro ledger config member _
      exact absurd member (noReopen config)
  exact (accounts.runAll served).2.lacks fun _ _ => kept

/-- A key without a record stays away for good. -/
theorem lacks_forever (gone : key ∉ keysOf account.records) :
    (session.runAll later).2.Lacks key := by
  have kept : lastPayload? key (account.runAll later).2.ledger.records = none := by
    refine LedgerSession.runAll_induction
      (motive := fun ledger => lastPayload? key ledger.records = none) ?_ ?_
      (lastPayload?_eq_none_iff.mpr gone)
    · intro ledger limit operation member missing
      have notPut := ne_put_of_mem noPut member
      rw [Ledger.lastPayload?_apply notPut (fun _ => lastPayload?_eq_none_iff.mp missing) limit]
      exact missing
    · intro _ _ _ missing
      exact missing
  have afterAccounts := (accounts.runAll served).2
  refine afterAccounts.lacks fun limit working => ?_
  rcases afterAccounts.exists_store working with ⟨store, _, describes, _⟩
  intro inUse
  exact lastPayload?_eq_none_iff.mp kept (describes.recorded key inUse)

/-- A record that is left in the file shows again once the medium is opened again. -/
theorem shows_after_reopen (noRemove : .operate (.remove key) ∉ later) {payload : ByteArray}
    (left : lastPayload? key account.records = some payload) {config : Config}
    {reopened : Session δ} (ran : (session.runAll later).2.reopen config = (.ok (), reopened)) :
    reopened.Shows key payload := by
  have kept : lastPayload? key (account.runAll later).2.ledger.records = some payload := by
    refine LedgerSession.runAll_induction
      (motive := fun ledger => lastPayload? key ledger.records = some payload) ?_ ?_ left
    · intro ledger limit operation member found
      have notPut := ne_put_of_mem noPut member
      have notRemoved : operation = .remove key → key ∉ keysOf ledger.records := by
        intro same
        rw [same] at member
        exact absurd member noRemove
      rw [Ledger.lastPayload?_apply notPut notRemoved limit]
      exact found
    · intro _ _ _ found
      exact found
  rcases (accounts.runAll served).2.reopen_ok ran with ⟨_, reopenedAccounts⟩
  have member := mem_keysOf_of_lastPayload? kept
  exact reopenedAccounts.shows rfl (Ledger.mem_live_ofRecords.mpr member) kept

end Removed

/-- After a removal the key is away until the medium is opened again, and from then on
too if no record of it is left, as when the first image had at most one. If one is left,
the next opening brings it back. -/
theorem removed_key {δ : Type} [Medium δ] [FaithfulMedium δ] {config : Config} {device : δ}
    {session after : Session δ} {earlier : List SessionStep} {key : EntityId}
    (sound : FaithfulDevice.Sound device)
    (started : Session.start config device = (.ok (), session))
    (served : ∀ answer ∈ (session.runAll earlier).1, ¬answer.IsRefusal)
    (removed : (session.runAll earlier).2.step (.operate (.remove key)) =
      (.operated (some (.ok (.flag true))), after)) :
    ∃ found left, AllWithin config.payloadLimit found ∧
      FaithfulDevice.contents device = image found ∧
      AllWithin maxPayloadSize left ∧ FaithfulDevice.contents after.device = image left ∧
      ((keysOf found).count key ≤ 1 → key ∉ keysOf left) ∧
      ∀ later, (∀ payload, .operate (.put key payload) ∉ later) →
        (∀ answer ∈ (after.runAll later).1, ¬answer.IsRefusal) →
        ((∀ config, .reopen config ∉ later) → (after.runAll later).2.Lacks key) ∧
        (key ∉ keysOf left → (after.runAll later).2.Lacks key) ∧
        (∀ payload, lastPayload? key left = some payload → .operate (.remove key) ∉ later →
          ∀ config reopened, (after.runAll later).2.reopen config = (.ok (), reopened) →
            reopened.Shows key payload) := by
  rcases LedgerSession.exists_accounts_of_start sound started with
    ⟨found, within, held, startAccounts⟩
  rcases startAccounts.runAll served with ⟨_, middleAccounts⟩
  rcases middleAccounts.step _ (by rw [removed]; exact id) with ⟨answered, afterAccounts⟩
  rw [removed] at answered afterAccounts
  rcases LedgerSession.exists_limit_of_removed answered.symm with ⟨limit, inUse, same⟩
  rw [same] at afterAccounts
  refine ⟨found, _, within, held, afterAccounts.describes.within, afterAccounts.contents,
    ?_, ?_⟩
  · intro once
    have unshadowed := LedgerSession.runAll_unshadowed
      ⟨.ofRecords found, .working config.payloadLimit⟩ (Ledger.unshadowed_ofRecords once)
      earlier
    exact Ledger.not_mem_keysOf_remove unshadowed.once inUse
  · intro later noPut laterServed
    refine ⟨?_, ?_, ?_⟩
    · intro noReopen
      exact lacks_until_reopen afterAccounts noPut laterServed
        (Ledger.not_mem_live_remove _ key) noReopen
    · intro gone
      exact lacks_forever afterAccounts noPut laterServed gone
    · intro payload left noRemove config reopened ran
      exact shows_after_reopen afterAccounts noPut laterServed noRemove left ran

/-- The only record of a key is removed, and the key stays away. -/
theorem removed_key_single_record :
    ∃ session after, Session.start {} (⟨image [⟨.replicate 1, ⟨#[1]⟩⟩]⟩ : Memory) =
        (.ok (), session) ∧
      session.step (.operate (.remove (.replicate 1))) =
        (.operated (some (.ok (.flag true))), after) ∧
      (after.runAll [.reopen {}]).2.Lacks (.replicate 1) := by
  let records : List Record := [⟨.replicate 1, ⟨#[1]⟩⟩]
  let account : LedgerSession := ⟨.ofRecords records, .working ({} : Config).payloadLimit⟩
  let remove : SessionStep := .operate (.remove (.replicate 1))
  have within : AllWithin ({} : Config).payloadLimit records := by decide
  rcases LedgerSession.Describes.start {} within with ⟨started, describes⟩
  rcases describes.step remove with ⟨after, removed, afterDescribes⟩
  have answer : (account.step remove).1 = .operated (some (.ok (.flag true))) := by cbv
  have laterAnswers : ((account.step remove).2.runAll [.reopen {}]).1 =
      [.reopened (.ok ())] := by cbv
  rw [answer] at removed
  have nothing : ∀ answer ∈ ((Session.opened (Store.opened {} records)).runAll []).1,
      ¬answer.IsRefusal := List.forall_mem_nil _
  rcases removed_key (FaithfulDevice.sound_memory ⟨image records⟩) started nothing removed with
    ⟨found, left, foundWithin, held, _, _, once, later⟩
  have same : found = records :=
    eq_of_image_eq (Config.payloadLimit_le {}) foundWithin within held.symm
  have gone := once (by rw [same]; decide)
  have noPut : ∀ payload, .operate (.put (.replicate 1) payload) ∉
      ([.reopen {}] : List SessionStep) := by
    intro payload member
    cases List.mem_singleton.mp member
  have served : ∀ answer ∈ (after.runAll [.reopen {}]).1, ¬answer.IsRefusal := by
    rcases afterDescribes.runAll [.reopen {}] with ⟨reopened, ran, _⟩
    rw [ran, laterAnswers]
    intro answer member
    rw [List.mem_singleton.mp member]
    exact id
  exact ⟨_, after, started, removed, (later [.reopen {}] noPut served).2.1 gone⟩

/-- The last of two records of a key is removed, and the first one returns. -/
theorem removed_key_returns :
    ∃ session, Session.start {} (⟨image [⟨.replicate 1, ⟨#[111, 108, 100]⟩⟩,
        ⟨.replicate 1, ⟨#[110, 101, 119]⟩⟩]⟩ : Memory) = (.ok (), session) ∧
      (session.runAll [.operate (.remove (.replicate 1)), .operate (.get (.replicate 1)),
          .operate (.contains (.replicate 1)), .reopen {}, .operate (.get (.replicate 1)),
          .operate (.contains (.replicate 1))]).1 =
        [.operated (some (.ok (.flag true))), .operated (some (.ok (.payload none))),
          .operated (some (.ok (.flag false))), .reopened (.ok ()),
          .operated (some (.ok (.payload (some ⟨#[111, 108, 100]⟩)))),
          .operated (some (.ok (.flag true)))] := by
  have within : AllWithin ({} : Config).payloadLimit [⟨.replicate 1, ⟨#[111, 108, 100]⟩⟩,
    ⟨.replicate 1, ⟨#[110, 101, 119]⟩⟩] := by decide
  rcases LedgerSession.Describes.start {} within with ⟨started, describes⟩
  refine ⟨_, started, ?_⟩
  rcases describes.runAll [.operate (.remove (.replicate 1)),
      .operate (.get (.replicate 1)), .operate (.contains (.replicate 1)), .reopen {},
      .operate (.get (.replicate 1)), .operate (.contains (.replicate 1))] with ⟨after, ran, _⟩
  rw [ran]
  cbv

end PackedRecords
