import PackedRecords.Proofs.Store.CompletedShifts

/-! # Bytes that puts hand to the device

The counter of bytes written is raised by an amount that is worked out beside the writes. It
is what a put that adds a record or replaces a payload in its place hands to the device. A put
of another length leaves the key of the record where it is and rewrites only the length and
the payload, but counts the whole header.
-/

namespace PackedRecords

/-- The number of bytes that a call lays over others. -/
def TracedCall.written : TracedCall → Nat
  | .writeAt _ length => length
  | _ => 0

namespace StoreTurn

variable {δ : Type} [ByteDevice δ] [FaithfulDevice δ] (turn : StoreTurn (Logged δ))

/-- The calls of the turn without those of a completed shift. -/
def outside : List LoggedCall :=
  turn.log.drop (turn.completed?.elim 0 fun shift => (shift.calls turn.before.inMemory).length)

/-- How many bytes a put has handed to the device outside the shift. -/
def handed : Nat :=
  match turn.operation with
  | .put .. => (turn.outside.map fun entry => entry.call.written).sum
  | _ => 0

/-- A put has moved the tail behind the record. -/
def rewrites : Bool :=
  match turn.operation with
  | .put .. => turn.completed?.isSome
  | _ => false

/-- The header and the payload of a new record, the length and the payload of one that has
another length, or the payload alone. -/
def share (key : EntityId) (payload : ByteArray) : Nat :=
  if turn.before.index[key]? = none then headerSize + payload.size
  else if turn.completed?.isSome then lengthSize + payload.size
  else payload.size

/-- The counter has gone up by what was handed over, and by the length of a key if a shift
came before. -/
structure CountsWritten : Prop where
  bytesWritten : turn.after.stats.bytesWritten =
    turn.before.stats.bytesWritten + (turn.handed + keySize * turn.rewrites.toNat)
  shiftedUpdates : turn.after.stats.shiftedUpdates =
    turn.before.stats.shiftedUpdates + turn.rewrites.toNat
  handed : ∀ key payload, turn.stored? = some (key, payload) →
    turn.handed = turn.share key payload

/-! ## Puts -/

theorem sum_written_served (calls : List TracedCall) :
    ((calls.map TracedCall.served).map fun entry => entry.call.written).sum =
      (calls.map TracedCall.written).sum := by
  rw [List.map_map]
  rfl

theorem sum_written_of_looks {calls : List TracedCall} (looks : ∀ call ∈ calls, call.Looks) :
    (calls.map TracedCall.written).sum = 0 := by
  apply List.sum_eq_zero
  intro amount member
  rcases List.mem_map.mp member with ⟨call, made, rfl⟩
  cases call with
  | writeAt offset length => exact (looks _ made).elim
  | _ => rfl

theorem sum_written_syncCalls (config : Config) :
    ((Store.syncCalls config).map TracedCall.written).sum = 0 := by
  rw [Store.syncCalls]
  split <;> rfl

variable {turn} {key : EntityId} {payload : ByteArray} (put : turn.operation = .put key payload)
include put

omit [ByteDevice δ] [FaithfulDevice δ] in
theorem stored?_put {other : EntityId} {bytes : ByteArray}
    (stored : turn.stored? = some (other, bytes)) :
    turn.answer.isOk = true ∧ key = other ∧ payload = bytes := by
  rw [stored?, put] at stored
  cases answered : turn.answer with
  | ok answer =>
      rw [answered] at stored
      cases stored
      exact ⟨rfl, rfl, rfl⟩
  | error failure =>
      rw [answered] at stored
      cases stored

section Unshifted

variable (incomplete : turn.completed? = none) {calls : List TracedCall}
  (log : turn.log = calls.map TracedCall.served)
include incomplete

theorem rewrites_of_incomplete : turn.rewrites = false := by
  rw [rewrites, put, incomplete]
  rfl

include log

theorem handed_of_incomplete : turn.handed = (calls.map TracedCall.written).sum := by
  rw [handed, put, outside, incomplete, log, ← sum_written_served]
  rfl

end Unshifted

/-- What is handed over before the sync is counted. -/
theorem countsWritten_of_plan (served : turn.Served) {first : List PlanStep}
    (carried : Carried (first ++ (Store.syncCalls turn.before.inMemory.config).map .call)
      turn.answer.isOk turn.before.books turn.log turn.after.books)
    (accepts : PlanStep.accepts first = true) (incomplete : turn.completed? = none)
    (amount : ((PlanStep.calls first).map TracedCall.written).sum = turn.share key payload)
    (counted : ((PlanStep.updates first).foldl (fun books update => update books)
      turn.before.books).stats.bytesWritten =
        turn.before.stats.bytesWritten + turn.share key payload)
    (same : ((PlanStep.updates first).foldl (fun books update => update books)
      turn.before.books).stats.shiftedUpdates = turn.before.stats.shiftedUpdates) :
    turn.CountsWritten := by
  rcases carried.of_served_append accepts served with ⟨_, log, books⟩
  have handed : turn.handed = turn.share key payload := by
    rw [handed_of_incomplete put incomplete log, List.map_append, List.sum_append,
      sum_written_syncCalls, amount, Nat.add_zero]
  rw [← books] at counted same
  refine ⟨?_, ?_, ?_⟩
  · rw [rewrites_of_incomplete put incomplete, handed]
    exact counted
  · rw [rewrites_of_incomplete put incomplete]
    exact same
  · intro other bytes stored
    rcases stored?_put put stored with ⟨_, rfl, rfl⟩
    exact handed

/-- The key of the record is counted though it is not written. -/
theorem countsWritten_of_shift (carries : turn.Carries) (served : turn.Served)
    {shift : TailShift} (meant : turn.operation.shift? turn.before.inMemory = some shift) :
    turn.CountsWritten := by
  have carried := carries.carried
  have shifts := meant
  rw [put] at shifts
  rw [put, StoreOperation.plan_put_of_shift shifts] at carried
  rcases carried.cases_calls_append with ⟨further, log, rest⟩ | ⟨_, _, made, call, _, _, log⟩
  · have finishing : Carried ([.reindex (·.shiftFrom shift.source shift.delta),
        .count (Stats.countShift (shift.length turn.before.inMemory)),
        .call (.writeAt (shift.place + keySize) lengthSize),
        .call (.writeAt (shift.place + headerSize) payload.size),
        .count (Stats.countShiftedUpdate (headerSize + payload.size))] ++
          (Store.syncCalls turn.before.inMemory.config).map .call)
        turn.answer.isOk turn.before.books further turn.after.books := rest
    have furtherServed : ∀ entry ∈ further, entry.served = true := by
      intro entry member
      apply served entry
      rw [log]
      exact List.mem_append_right _ member
    rcases finishing.of_served_append rfl furtherServed with ⟨_, written, books⟩
    have completed := completed?_of_served meant log
    have rewritten : turn.rewrites = true := by
      rw [rewrites, put, completed]
      rfl
    have handed : turn.handed = lengthSize + payload.size := by
      have apart : turn.outside = further := by
        rw [outside, completed, log]
        exact List.drop_left' (List.length_map _)
      rw [StoreTurn.handed, put, apart, written, sum_written_served, List.map_append,
        List.sum_append, sum_written_syncCalls]
      exact congrArg (lengthSize + ·) (Nat.add_zero _)
    refine ⟨?_, ?_, ?_⟩
    · rw [handed, rewritten]
      have counted : turn.after.stats.bytesWritten =
          turn.before.stats.bytesWritten + (headerSize + payload.size) :=
        congrArg (fun books : Books => books.stats.bytesWritten) books
      -- Of the header only the length has been handed over.
      have header : headerSize = keySize + lengthSize := rfl
      rw [counted, header, Bool.toNat_true]
      omega
    · rw [rewritten]
      exact congrArg (fun books : Books => books.stats.shiftedUpdates) books
    · intro other bytes stored
      rcases stored?_put put stored with ⟨_, rfl, rfl⟩
      have present : turn.before.index[key]? ≠ none := by
        intro missing
        have led := StoreOperation.getElem?_index_of_shift shifts (.inr ⟨payload, rfl⟩)
        cases led.symm.trans missing
      rw [handed, share, if_neg present, completed]
      rfl
  · have refused : call.refused.served = true := by
      apply served
      rw [log]
      exact List.mem_append_right _ List.mem_cons_self
    cases refused

theorem countsWritten_put (carries : turn.Carries) (served : turn.Served) :
    turn.CountsWritten := by
  have carried := carries.carried
  cases meant : turn.operation.shift? turn.before.inMemory with
  | none =>
      have incomplete := completed?_of_none meant
      rw [put] at carried meant
      rcases StoreOperation.plan_put_cases meant with
        givesUp | ⟨missing, plan⟩ | ⟨offset, led, plan⟩
      · rcases carried.of_served served with ⟨ended, log, _⟩
        have same := carried.kept (·.stats) givesUp.updates
        have nothing := handed_of_incomplete put incomplete log
        rw [sum_written_of_looks givesUp.calls] at nothing
        refine ⟨?_, ?_, ?_⟩
        · rw [nothing, rewrites_of_incomplete put incomplete]
          exact congrArg Stats.bytesWritten same
        · rw [rewrites_of_incomplete put incomplete]
          exact congrArg Stats.shiftedUpdates same
        · intro other bytes stored
          rw [givesUp.accepts, (stored?_put put stored).1] at ended
          cases ended
      · have share : turn.share key payload = headerSize + payload.size := if_pos missing
        rw [plan] at carried
        refine countsWritten_of_plan put served carried rfl incomplete ?_ ?_ rfl
        · rw [share]
          exact Nat.zero_add _
        · rw [share]
          rfl
      · have share : turn.share key payload = payload.size := by
          have present : turn.before.index[key]? ≠ none := by
            intro missing
            cases led.symm.trans missing
          rw [StoreTurn.share, if_neg present, incomplete]
          rfl
        rw [plan] at carried
        refine countsWritten_of_plan put served carried rfl incomplete ?_ ?_ rfl
        · rw [share]
          exact Nat.zero_add _
        · rw [share]
          rfl
  | some shift => exact countsWritten_of_shift put carries served meant

/-! ## Turns -/

omit put in
theorem countsWritten_of_kept (notPut : ∀ key payload, turn.operation ≠ .put key payload)
    (bytesWritten : turn.after.stats.bytesWritten = turn.before.stats.bytesWritten)
    (shiftedUpdates : turn.after.stats.shiftedUpdates = turn.before.stats.shiftedUpdates) :
    turn.CountsWritten := by
  rcases turn with ⟨operation, before, answer, after⟩
  cases operation with
  | put key payload => exact absurd rfl (notPut key payload)
  | _ => exact ⟨bytesWritten, shiftedUpdates, fun _ _ stored => by cases stored⟩

omit put in
theorem countsWritten_remove (carries : turn.Carries) (remove : turn.operation = .remove key) :
    turn.CountsWritten := by
  have carried := carries.carried
  have notPut (other : EntityId) (payload : ByteArray) : turn.operation ≠ .put other payload := by
    rw [remove]
    exact StoreOperation.noConfusion
  cases meant : turn.operation.shift? turn.before.inMemory with
  | none =>
      rw [remove] at carried meant
      rcases StoreOperation.plan_remove_cases meant with givesUp | ⟨_, plan⟩
      · have same := carried.kept (·.stats) givesUp.updates
        exact countsWritten_of_kept notPut (congrArg Stats.bytesWritten same)
          (congrArg Stats.shiftedUpdates same)
      · rw [plan] at carried
        have same := carried.of_nil.2
        exact countsWritten_of_kept notPut
          (congrArg (fun books : Books => books.stats.bytesWritten) same)
          (congrArg (fun books : Books => books.stats.shiftedUpdates) same)
  | some shift =>
      rw [remove] at carried meant
      rw [StoreOperation.plan_remove_of_shift meant] at carried
      have same := carried.kept
        (fun books => (books.stats.bytesWritten, books.stats.shiftedUpdates)) (by
          simp only [PlanStep.updates, PlanStep.reindex, PlanStep.count,
            PlanStep.updates_append, PlanStep.updates_map_call, PlanStep.accepts_map_call]
          simp [Stats.countShift, Stats.countRemove])
      rcases Prod.mk.inj same with ⟨bytesWritten, shiftedUpdates⟩
      exact countsWritten_of_kept notPut bytesWritten shiftedUpdates

omit put in
theorem Carries.countsWritten (carries : turn.Carries) (served : turn.Served) :
    turn.CountsWritten := by
  by_cases writes : turn.operation.Writes
  · rcases writes.cases with ⟨key, payload, put⟩ | ⟨key, remove⟩
    · exact countsWritten_put put carries served
    · exact countsWritten_remove carries remove
  · have kept {part : Stats → Nat} (lookup : ∀ stats : Stats, part stats.countLookup = part stats)
        (read : ∀ length (stats : Stats), part (stats.countRead length) = part stats) :
        part turn.after.stats = part turn.before.stats :=
      carries.carried.kept (fun books => part books.stats)
        (StoreOperation.updates_of_not_writes writes lookup read)
    apply countsWritten_of_kept
    · intro key payload put
      rw [put] at writes
      exact writes trivial
    · exact kept (fun _ => rfl) fun _ _ => rfl
    · exact kept (fun _ => rfl) fun _ _ => rfl

end StoreTurn

/-! ## Runs -/

/-- As long as the device refuses no call, the counter of bytes written is the number of bytes
that puts have handed to the device outside their shifts, and the length of a key for each
put of another length. -/
theorem StoreOperation.bytes_written {δ : Type} [ByteDevice δ] [FaithfulDevice δ]
    {config : Config} {device : Logged δ} {store : Store (Logged δ)}
    (sound : FaithfulDevice.Sound device)
    (accepted : Store.openDevice config device = .ok store) {operations : List StoreOperation}
    (served : ∀ turn ∈ history operations store, turn.Served) :
    (∀ turn ∈ history operations store, turn.CountsWritten) ∧
      (runAll operations store).2.stats.bytesWritten =
        ((history operations store).map StoreTurn.handed).sum +
          keySize * (runAll operations store).2.stats.shiftedUpdates := by
  have opened := (Store.openDevice_ok sound accepted).1
  have counted : ∀ turn ∈ history operations store, turn.CountsWritten :=
    fun turn member => (carries_history opened operations turn member).countsWritten
      (served turn member)
  refine ⟨counted, ?_⟩
  have written := counter_runAll Stats.bytesWritten
    fun turn member => (counted turn member).bytesWritten
  have rewritten := counter_runAll Stats.shiftedUpdates
    fun turn member => (counted turn member).shiftedUpdates
  rw [(Store.openDevice_fresh accepted).2] at written rewritten
  rw [written, rewritten, List.sum_map_add, List.sum_map_mul_left]
  simp

/-- A record is added, replaced in its place, made shorter and removed. -/
theorem StoreOperation.bytes_written_kinds :
    let operations : List StoreOperation :=
      [.put (.replicate 1) ⟨#[97, 98]⟩, .put (.replicate 1) ⟨#[99, 100]⟩,
        .put (.replicate 1) ⟨#[101]⟩, .remove (.replicate 1)]
    Store.openDevice {} Logged.fresh = .ok (Store.onFresh {}) ∧
      (∀ turn ∈ history operations (Store.onFresh {}), turn.Served) ∧
      (history operations (Store.onFresh {})).map StoreTurn.handed = [22, 2, 5, 0] ∧
      (runAll operations (Store.onFresh {})).2.stats.bytesWritten = 29 + keySize * 1 := by
  intro operations
  have accepted := Store.openDevice_fresh_device {}
  have served : ∀ turn ∈ history operations (Store.onFresh {}), turn.Served := by decide +kernel
  have amounts : (history operations (Store.onFresh {})).map StoreTurn.handed = [22, 2, 5, 0] := by
    decide +kernel
  have resized : (runAll operations (Store.onFresh {})).2.stats.shiftedUpdates = 1 := by
    decide +kernel
  have written := (bytes_written trivial accepted served).2
  rw [amounts, resized] at written
  exact ⟨accepted, served, amounts, written⟩

/-- A payload of two bytes is stored and then one of a single byte. Twenty-seven bytes are
handed over, and sixteen more are counted. -/
theorem StoreOperation.bytes_written_resized :
    let operations : List StoreOperation :=
      [.put (.replicate 1) ⟨#[97, 98]⟩, .put (.replicate 1) ⟨#[99]⟩]
    Store.openDevice {} Logged.fresh = .ok (Store.onFresh {}) ∧
      (∀ turn ∈ history operations (Store.onFresh {}), turn.Served) ∧
      ((history operations (Store.onFresh {})).map StoreTurn.handed).sum = 27 ∧
      (runAll operations (Store.onFresh {})).2.stats.bytesWritten = 43 := by
  refine ⟨Store.openDevice_fresh_device {}, by decide +kernel, ?_, ?_⟩ <;> decide +kernel

end PackedRecords
