import PackedRecords.Proofs.Store.InMemory
import PackedRecords.Proofs.Store.Opening

/-! # Closed stores

Closing is final: whatever is asked of a store afterwards, the store stays closed and
nothing reaches its device. The only question that is still looked into is whether a
payload is too large, because `put` asks it first.
-/

namespace PackedRecords

/-- What a closed store answers under a limit. -/
def closedAnswer (limit : Nat) : StoreOperation → Except StoreError StoreAnswer
  | .put _ payload =>
      if limit < payload.size then .error (.payloadTooLarge payload.size limit)
      else .error .closed
  | .close => .ok .done
  | _ => .error .closed

/-- A put of more bytes than a limit allows. -/
def StoreOperation.Oversized (limit : Nat) : StoreOperation → Prop
  | .put _ payload => limit < payload.size
  | _ => False

theorem closedAnswer_eq_closed_iff (limit : Nat) (operation : StoreOperation) :
    closedAnswer limit operation = .error .closed ↔
      operation ≠ .close ∧ ¬operation.Oversized limit := by
  cases operation with
  | put key payload =>
      by_cases large : limit < payload.size
      · simp [closedAnswer, StoreOperation.Oversized, large]
      · simp [closedAnswer, StoreOperation.Oversized, large]
  | _ => simp [closedAnswer, StoreOperation.Oversized]

theorem Store.put_run_closed {δ : Type} [ByteDevice δ] {key : EntityId} {payload : ByteArray}
    {index : Index} {config : Config} {stats : Stats}
    (short : payload.size ≤ config.payloadLimit) (device : δ) :
    put key payload (⟨device, index, config, stats, false⟩ : Store δ) =
      .error .closed ⟨device, index, config, stats, false⟩ := by
  rw [put, bind_of_ok (view_run _ _)]
  simp only [if_neg (Nat.not_lt_of_le short)]
  rfl

namespace StoreOperation

variable {δ : Type} [ByteDevice δ]

/-- A closed store refuses everything and changes nothing but its counters. -/
theorem outcome_of_closed (operation : StoreOperation) {store : Store δ}
    (closed : store.isOpen = false) :
    ∃ stats, operation.outcome store =
      (closedAnswer store.config.payloadLimit operation, { store with stats := stats }) := by
  rcases store with ⟨device, index, config, stats, isOpen⟩
  cases closed
  cases operation with
  | put key payload =>
      refine ⟨stats, ?_⟩
      rw [closedAnswer]
      by_cases large : config.payloadLimit < payload.size
      · rw [outcome, run, bind_of_error (Store.put_run_large large device), if_pos large]
      · rw [outcome, run, bind_of_error (Store.put_run_closed (Nat.le_of_not_lt large) device),
          if_neg large]
  | get key => exact ⟨stats.countLookup, rfl⟩
  | remove key => exact ⟨stats, rfl⟩
  | contains key => exact ⟨stats, rfl⟩
  | offsetOf key => exact ⟨stats, rfl⟩
  | length => exact ⟨stats, rfl⟩
  | isEmpty => exact ⟨stats, rfl⟩
  | keys => exact ⟨stats, rfl⟩
  | fileSize => exact ⟨stats, rfl⟩
  | scan => exact ⟨stats, rfl⟩
  | flush => exact ⟨stats, rfl⟩
  | sync => exact ⟨stats, rfl⟩
  | close => exact ⟨stats, rfl⟩

theorem runAll_of_closed (operations : List StoreOperation) {store : Store δ}
    (closed : store.isOpen = false) :
    ∃ stats, runAll operations store =
      (operations.map (closedAnswer store.config.payloadLimit),
        { store with stats := stats }) := by
  induction operations generalizing store with
  | nil => exact ⟨store.stats, rfl⟩
  | cons operation rest induction =>
      rcases operation.outcome_of_closed closed with ⟨counted, first⟩
      have still : { store with stats := counted }.isOpen = false := closed
      rcases induction still with ⟨stats, later⟩
      refine ⟨stats, ?_⟩
      rw [runAll, first]
      simp only [later, List.map_cons]

/-- Closing leaves a closed store behind, also when the last flush fails. -/
theorem isOpen_close (store : Store δ) : (close.outcome store).2.isOpen = false := by
  rcases store with ⟨device, index, config, stats, isOpen⟩
  cases isOpen with
  | false => rfl
  | true =>
      cases flushed : ByteDevice.flush device with
      | ok value after =>
          have ran : Store.close ⟨device, index, config, stats, true⟩ =
              .ok () ⟨ByteDevice.release after, index, config, stats, false⟩ := by
            simp only [Store.close, flushed, if_true]
          rw [outcome, run, bind_of_ok ran, pure_run]
      | error failure after =>
          have ran : Store.close ⟨device, index, config, stats, true⟩ =
              .error (.device failure)
                ⟨ByteDevice.release after, index, config, stats, false⟩ := by
            simp only [Store.close, flushed, if_true]
          rw [outcome, run, bind_of_error ran]

end StoreOperation

/-- After a close, whether its last flush succeeded or failed, every further operation
answers without the device: closing again succeeds, a put over the limit is told so,
and everything else is told that the store is closed. Only counters change. -/
theorem Store.closed_inert {δ : Type} [ByteDevice δ] (store : Store δ)
    (earlier : List StoreOperation) :
    ∃ answers shut,
      StoreOperation.runAll (earlier ++ [.close]) store = (answers, shut) ∧
      shut.isOpen = false ∧
      (∀ later, ∃ stats, StoreOperation.runAll (earlier ++ .close :: later) store =
        (answers ++ later.map (closedAnswer shut.config.payloadLimit),
          { shut with stats := stats })) ∧
      ∀ operation, closedAnswer shut.config.payloadLimit operation = .error .closed ↔
        operation ≠ .close ∧ ¬operation.Oversized shut.config.payloadLimit := by
  let answers := (StoreOperation.runAll (earlier ++ [.close]) store).1
  let shut := (StoreOperation.runAll (earlier ++ [.close]) store).2
  have closed : shut.isOpen = false := by
    simp only [shut, StoreOperation.runAll_append]
    exact StoreOperation.isOpen_close _
  refine ⟨answers, shut, rfl, closed, ?_, closedAnswer_eq_closed_iff _⟩
  intro later
  rcases StoreOperation.runAll_of_closed later closed with ⟨stats, ran⟩
  refine ⟨stats, ?_⟩
  rw [List.append_cons, StoreOperation.runAll_append, ran]

/-- A closed store that takes at most three bytes answers a put of four bytes with the
excess, not with its being closed. -/
theorem Store.closed_put_oversized :
    (StoreOperation.runAll
        [.close, .put (.replicate 1) "long".toUTF8, .put (.replicate 1) "put".toUTF8]
        (Store.opened { maxPayloadSize := 3 } [])).1 =
      [.ok .done, .error (.payloadTooLarge 4 3), .error .closed] := by
  decide +kernel

end PackedRecords
