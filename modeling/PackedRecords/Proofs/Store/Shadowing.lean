import PackedRecords.Proofs.Store.LedgerSession

/-! # Shadowed records

A record is shadowed when its key is not in use or a later record has the same key.
Operations never shadow a record: where no key had a shadowed record there is none
afterwards. In such a ledger opening the medium again changes nothing.
-/

namespace PackedRecords

/-! ## Keys and payloads of changed lists -/

theorem replaceLast_of_not_mem {key : EntityId} (payload : ByteArray)
    {records : List Record} (missing : key ∉ keysOf records) :
    replaceLast key payload records = records := by
  cases records with
  | nil => rfl
  | cons head rest =>
      rw [keysOf_cons, List.mem_cons, not_or] at missing
      rw [replaceLast, if_neg missing.2, if_neg (Ne.symm missing.1)]

theorem keysOf_replaceLast (key : EntityId) (payload : ByteArray) (records : List Record) :
    keysOf (replaceLast key payload records) = keysOf records := by
  by_cases member : key ∈ keysOf records
  · rcases exists_last_split member with ⟨before, record, after, split, same, last⟩
    rw [split, replaceLast_split same last]
    simp only [keysOf_append, keysOf_cons, same]
  · rw [replaceLast_of_not_mem payload member]

theorem eraseLast_of_not_mem {key : EntityId} {records : List Record}
    (missing : key ∉ keysOf records) : eraseLast key records = records := by
  cases records with
  | nil => rfl
  | cons head rest =>
      rw [keysOf_cons, List.mem_cons, not_or] at missing
      rw [eraseLast, if_neg missing.2, if_neg (Ne.symm missing.1)]

/-- Erasing a last record erases one occurrence of its key. -/
theorem count_keysOf_eraseLast (key other : EntityId) (records : List Record) :
    (keysOf (eraseLast key records)).count other =
      (keysOf records).count other - if key = other then 1 else 0 := by
  by_cases member : key ∈ keysOf records
  · rcases exists_last_split member with ⟨before, record, after, split, same, last⟩
    rw [split, eraseLast_split same last]
    simp only [keysOf_append, keysOf_cons, List.count_append, List.count_cons, same, beq_iff_eq]
    split <;> omega
  · rw [eraseLast_of_not_mem member]
    by_cases same : key = other
    · rw [← same, List.count_eq_zero_of_not_mem member]
      omega
    · rw [if_neg same, Nat.sub_zero]

section Others

variable {key other : EntityId} (different : key ≠ other)
include different

theorem lastPayload?_middle {before after : List Record} {record : Record}
    (same : record.key = key) :
    lastPayload? other (before ++ record :: after) = lastPayload? other (before ++ after) := by
  have elsewhere : record.key ≠ other := by
    rw [same]
    exact different
  rw [lastPayload?_append, lastPayload?_append, lastPayload?, if_neg elsewhere, Option.or_none]

theorem lastPayload?_replaceLast (payload : ByteArray) (records : List Record) :
    lastPayload? other (replaceLast key payload records) = lastPayload? other records := by
  by_cases member : key ∈ keysOf records
  · rcases exists_last_split member with ⟨before, record, after, split, same, last⟩
    rw [split, replaceLast_split same last, lastPayload?_middle different same,
      lastPayload?_middle different rfl]
  · rw [replaceLast_of_not_mem payload member]

theorem lastPayload?_eraseLast (records : List Record) :
    lastPayload? other (eraseLast key records) = lastPayload? other records := by
  by_cases member : key ∈ keysOf records
  · rcases exists_last_split member with ⟨before, record, after, split, same, last⟩
    rw [split, eraseLast_split same last, lastPayload?_middle different same]
  · rw [eraseLast_of_not_mem member]

end Others

namespace Ledger

/-! ## Shadowed records -/

/-- At most one record has the key, and if there is one the key is in use. -/
structure Unshadowed (ledger : Ledger) (key : EntityId) : Prop where
  once : (keysOf ledger.records).count key ≤ 1
  used : key ∈ keysOf ledger.records → key ∈ ledger.live

theorem unshadowed_ofRecords {records : List Record} {key : EntityId}
    (once : (keysOf records).count key ≤ 1) : (ofRecords records).Unshadowed key where
  once := once
  used := mem_live_ofRecords.mpr

namespace Unshadowed

variable {ledger : Ledger} {key : EntityId}

theorem put (unshadowed : ledger.Unshadowed key) (other : EntityId) (payload : ByteArray) :
    (ledger.put other payload).Unshadowed key := by
  rcases unshadowed with ⟨once, used⟩
  rw [Ledger.put]
  by_cases inUse : other ∈ ledger.live
  · rw [if_pos inUse]
    constructor
    · rw [keysOf_replaceLast]
      exact once
    · rw [keysOf_replaceLast]
      exact used
  · rw [if_neg inUse]
    constructor
    · rw [keysOf_append, keysOf_cons, keysOf_nil, List.count_append, List.count_singleton]
      by_cases same : other = key
      · have missing : key ∉ keysOf ledger.records := by
          intro member
          rw [same] at inUse
          exact inUse (used member)
        rw [List.count_eq_zero_of_not_mem missing]
        split <;> omega
      · rw [if_neg (by rw [beq_iff_eq]; exact same)]
        exact once
    · intro member
      rw [keysOf_append, List.mem_append] at member
      rw [Std.ExtTreeSet.mem_insert]
      rcases member with earlier | new
      · exact .inr (used earlier)
      · left
        rw [List.mem_singleton.mp new]
        exact Std.ReflCmp.compare_self

theorem remove (unshadowed : ledger.Unshadowed key) (other : EntityId) :
    (ledger.remove other).Unshadowed key := by
  rcases unshadowed with ⟨once, used⟩
  rw [Ledger.remove]
  by_cases inUse : other ∈ ledger.live
  · rw [if_pos inUse]
    have counted := count_keysOf_eraseLast other key ledger.records
    constructor
    · change (keysOf (eraseLast other ledger.records)).count key ≤ 1
      omega
    · intro member
      have positive := List.count_pos_iff.mpr member
      rw [Std.ExtTreeSet.mem_erase]
      by_cases same : other = key
      · rw [if_pos same] at counted
        change 0 < (keysOf (eraseLast other ledger.records)).count key at positive
        omega
      · refine ⟨mt Std.LawfulEqCmp.compare_eq_iff_eq.mp same, used ?_⟩
        change 0 < (keysOf (eraseLast other ledger.records)).count key at positive
        exact List.count_pos_iff.mp (by omega)
  · rw [if_neg inUse]
    exact ⟨once, used⟩

theorem apply (unshadowed : ledger.Unshadowed key) (limit : Nat) (operation : StoreOperation) :
    (ledger.apply limit operation).2.Unshadowed key := by
  cases operation with
  | put other payload =>
      rw [Ledger.apply]
      split
      · exact unshadowed
      · exact unshadowed.put other payload
  | remove other => exact unshadowed.remove other
  | _ => exact unshadowed

theorem reopened (unshadowed : ledger.Unshadowed key) :
    (ofRecords ledger.records).Unshadowed key :=
  unshadowed_ofRecords unshadowed.once

end Unshadowed

/-- Without shadowed records the keys in use are those of the records. -/
theorem ofRecords_eq_self {ledger : Ledger} (unshadowed : ∀ key, ledger.Unshadowed key)
    (recorded : ∀ key ∈ ledger.live, key ∈ keysOf ledger.records) :
    ofRecords ledger.records = ledger := by
  rcases ledger with ⟨records, live⟩
  have same : (ofRecords records).live = live := by
    apply Std.ExtTreeSet.ext_mem
    intro key
    rw [mem_live_ofRecords]
    exact ⟨(unshadowed key).used, recorded key⟩
  rw [← same]
  rfl

end Ledger

/-! ## Properties kept by a session -/

namespace LedgerSession

/-- What every operation keeps, and every other opening as well, a run keeps. -/
theorem runAll_induction {motive : Ledger → Prop} {session : LedgerSession}
    {steps : List SessionStep}
    (operated : ∀ ledger limit operation, .operate operation ∈ steps → motive ledger →
      motive (ledger.apply limit operation).2)
    (reopened : ∀ ledger config, .reopen config ∈ steps → motive ledger →
      motive (.ofRecords ledger.records))
    (start : motive session.ledger) : motive (session.runAll steps).2.ledger := by
  induction steps generalizing session with
  | nil => exact start
  | cons first rest induction =>
      rw [runAll]
      apply induction
      · intro ledger limit operation member
        exact operated ledger limit operation (List.mem_cons_of_mem _ member)
      · intro ledger config member
        exact reopened ledger config (List.mem_cons_of_mem _ member)
      · rcases session with ⟨ledger, mode⟩
        cases first with
        | operate operation =>
            rw [step, operate]
            cases mode with
            | vacant => exact start
            | shut limit => exact start
            | working limit => exact operated ledger limit operation List.mem_cons_self start
        | reopen config =>
            simp only [step, reopen, records]
            cases openingFailure? config.payloadLimit 0 ledger.records with
            | none => exact reopened ledger config List.mem_cons_self start
            | some failure => exact start

theorem runAll_unshadowed (session : LedgerSession) {key : EntityId}
    (unshadowed : session.ledger.Unshadowed key) (steps : List SessionStep) :
    (session.runAll steps).2.ledger.Unshadowed key :=
  runAll_induction (motive := fun ledger => ledger.Unshadowed key)
    (fun _ limit operation _ kept => kept.apply limit operation)
    (fun _ _ _ kept => kept.reopened) unshadowed

end LedgerSession

end PackedRecords
