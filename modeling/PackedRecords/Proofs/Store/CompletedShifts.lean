import PackedRecords.Proofs.Store.LoggedHistory

/-! # Completed shifts

A put of another length and a removal move the tail behind the record. The move has come to
its end when all its calls stand in the log as served; whatever the operation does afterwards,
the tail is then in its new place. The counter of shifted bytes knows of every such move, but
for those of removals whose sync is refused after it.
-/

namespace PackedRecords

/-- A tail that is to be moved, and the record it stands behind. -/
structure TailShift where
  place : Nat
  source : Nat
  delta : Int
deriving DecidableEq

namespace TailShift

/-- The calls from the look at the record's length to the end of the move. -/
def calls (shift : TailShift) (store : Store Memory) : List TracedCall :=
  .readInto (shift.place + keySize) lengthSize :: .size ::
    store.tailCalls shift.source shift.delta

/-- The number of bytes that are moved. -/
def length (shift : TailShift) (store : Store Memory) : Nat :=
  store.device.bytes.size - shift.source

end TailShift

/-- The shift that changes the length of a key's record, if there is a record, its length is
acceptable and changes, and it ends within the device. -/
def Store.resizing? (store : Store Memory) (key : EntityId) (change : Nat → Int) :
    Option TailShift :=
  match store.index[key]? with
  | none => none
  | some offset =>
      match store.measure offset with
      | .error _ => none
      | .ok length =>
          let source := offset + headerSize + length
          if change length ≠ 0 ∧ source ≤ store.device.bytes.size then
            some ⟨offset, source, change length⟩
          else none

/-- The shift that an operation means to make. -/
def StoreOperation.shift? : StoreOperation → Store Memory → Option TailShift
  | put key payload, store =>
      if store.isOpen ∧ payload.size ≤ store.config.payloadLimit then
        store.resizing? key fun length => payload.size - length
      else none
  | remove key, store =>
      if store.isOpen then store.resizing? key fun length => -(headerSize + length : Nat)
      else none
  | _, _ => none

/-- The index without the entry that a removal gives up. -/
def StoreOperation.unlisted : StoreOperation → Index → Index
  | remove key, index => index.erase key
  | _, index => index

/-! ## Plans with a shift -/

theorem Store.resizing?_eq_some {store : Store Memory} {key : EntityId} {change : Nat → Int}
    {shift : TailShift} (found : store.resizing? key change = some shift) :
    ∃ length, store.index[key]? = some shift.place ∧ store.measure shift.place = .ok length ∧
      shift.source = shift.place + headerSize + length ∧ shift.delta = change length ∧
      change length ≠ 0 ∧ ¬store.device.bytes.size < shift.source := by
  rw [resizing?] at found
  split at found
  · cases found
  · rename_i offset led
    split at found
    · cases found
    · rename_i length measured
      dsimp only at found
      split at found
      · rename_i moves
        cases found
        exact ⟨length, led, measured, rfl, rfl, moves.1, Nat.not_lt_of_le moves.2⟩
      · cases found

namespace StoreOperation

variable {store : Store Memory} {shift : TailShift} {key : EntityId}

theorem plan_put_of_shift {payload : ByteArray}
    (meant : (put key payload).shift? store = some shift) :
    (put key payload).plan store = (shift.calls store).map .call ++
      (.reindex (·.shiftFrom shift.source shift.delta) ::
        .count (Stats.countShift (shift.length store)) ::
        .call (.writeAt (shift.place + keySize) lengthSize) ::
        .call (.writeAt (shift.place + headerSize) payload.size) ::
        .count (Stats.countShiftedUpdate (headerSize + payload.size)) ::
        (Store.syncCalls store.config).map .call) := by
  rw [shift?] at meant
  split at meant
  · rename_i possible
    rcases Store.resizing?_eq_some meant with
      ⟨length, led, measured, source, delta, changes, inside⟩
    have different : ¬length = payload.size := by omega
    rw [plan, Store.putPlan, if_neg (Nat.not_lt_of_le possible.2), Store.whenOpen,
      if_pos possible.1, led]
    simp only [Store.updatePlan, Store.measurePlan, Store.shiftPlan, Store.movePlan, measured,
      if_neg different, ← source, ← delta, if_neg inside, TailShift.calls, TailShift.length,
      List.map_cons, List.append_assoc, List.cons_append, List.nil_append]
  · cases meant

theorem getElem?_index_of_shift {operation : StoreOperation}
    (meant : operation.shift? store = some shift)
    (written : operation = remove key ∨ ∃ payload, operation = put key payload) :
    store.index[key]? = some shift.place := by
  have found : ∃ change, store.resizing? key change = some shift := by
    rcases written with rfl | ⟨payload, rfl⟩ <;>
      (rw [shift?] at meant
       split at meant
       · exact ⟨_, meant⟩
       · cases meant)
  rcases found with ⟨change, found⟩
  rcases Store.resizing?_eq_some found with ⟨length, led, _⟩
  exact led

theorem plan_remove_of_shift (meant : (remove key).shift? store = some shift) :
    (remove key).plan store = .reindex (·.erase key) :: ((shift.calls store).map .call ++
      (.reindex (·.shiftFrom shift.source shift.delta) ::
        ((Store.syncCalls store.config).map .call ++
          [.count (Stats.countShift (shift.length store)), .count Stats.countRemove]))) := by
  rw [shift?] at meant
  split at meant
  · rename_i isOpen
    rcases Store.resizing?_eq_some meant with
      ⟨length, led, measured, source, delta, changes, inside⟩
    rw [plan, Store.whenOpen, if_pos isOpen, Store.removePlan, led]
    simp only [Store.measurePlan, Store.shiftPlan, Store.movePlan, measured, ← Nat.add_assoc,
      ← source, ← delta, if_neg inside, TailShift.calls, TailShift.length,
      List.map_cons, List.append_assoc, List.cons_append, List.nil_append]
  · cases meant

end StoreOperation

/-! ## Plans without a shift -/

/-- A call that changes no bytes and makes none durable. -/
def TracedCall.Looks : TracedCall → Prop
  | .readAt .. | .readInto .. | .size | .flush => True
  | _ => False

/-- The plan ends in a failure of its own before anything is changed or counted. -/
structure PlanStep.GivesUp (plan : List PlanStep) : Prop where
  accepts : accepts plan = false
  calls : ∀ call ∈ calls plan, call.Looks
  updates : ∀ update ∈ updates plan, ∀ books, (update books).stats = books.stats

namespace StoreOperation

variable {store : Store Memory} {key : EntityId}

theorem givesUp_refuse (rest : List PlanStep) : PlanStep.GivesUp (.refuse :: rest) :=
  ⟨rfl, List.forall_mem_nil _, List.forall_mem_nil _⟩

theorem givesUp_measure {offset : Nat} {fault : Corruption}
    (measured : store.measure offset = .error fault) (rest : List PlanStep) :
    PlanStep.GivesUp (store.measurePlan offset ++ rest) := by
  rw [Store.measurePlan, measured]
  exact ⟨rfl, List.forall_mem_singleton.mpr trivial, List.forall_mem_nil _⟩

theorem givesUp_past {offset length source : Nat} (measured : store.measure offset = .ok length)
    (past : store.device.bytes.size < source) (delta : Int) (rest : List PlanStep) :
    PlanStep.GivesUp (store.measurePlan offset ++ (store.shiftPlan source delta ++ rest)) := by
  rw [Store.measurePlan, measured, Store.shiftPlan, Store.movePlan, if_pos past]
  exact ⟨rfl, by simp [PlanStep.calls, TracedCall.Looks], List.forall_mem_nil _⟩

/-- A put that means no shift gives up, or adds a record, or writes one in its place. -/
theorem plan_put_cases {payload : ByteArray} (unshifted : (put key payload).shift? store = none) :
    PlanStep.GivesUp ((put key payload).plan store) ∨
      store.index[key]? = none ∧ (put key payload).plan store =
        store.appendPlan key payload ++ (Store.syncCalls store.config).map .call ∨
      ∃ offset, store.index[key]? = some offset ∧ (put key payload).plan store =
        [.call (.readInto (offset + keySize) lengthSize),
          .call (.writeAt (offset + headerSize) payload.size),
          .count (Stats.countInPlaceUpdate payload.size)] ++
            (Store.syncCalls store.config).map .call := by
  rw [plan, Store.putPlan]
  by_cases large : store.config.payloadLimit < payload.size
  · rw [if_pos large]
    exact .inl (givesUp_refuse _)
  · rw [if_neg large, Store.whenOpen]
    cases isOpen : store.isOpen with
    | false => exact .inl (givesUp_refuse _)
    | true =>
        rw [shift?, if_pos ⟨isOpen, Nat.le_of_not_lt large⟩, Store.resizing?] at unshifted
        rw [if_pos rfl]
        cases led : store.index[key]? with
        | none => exact .inr (.inl ⟨rfl, rfl⟩)
        | some offset =>
            simp only [led] at unshifted ⊢
            rw [Store.updatePlan, List.append_assoc]
            cases measured : store.measure offset with
            | error fault => exact .inl (givesUp_measure measured _)
            | ok length =>
                simp only [measured] at unshifted ⊢
                by_cases fits : length = payload.size
                · rw [if_pos fits, Store.measurePlan, measured]
                  exact .inr (.inr ⟨offset, rfl, rfl⟩)
                · have past : store.device.bytes.size < offset + headerSize + length := by
                    by_contra inside
                    rw [if_pos ⟨by omega, Nat.le_of_not_lt inside⟩] at unshifted
                    cases unshifted
                  rw [if_neg fits, List.append_assoc]
                  exact .inl (givesUp_past measured past _ _)

/-- A removal that means no shift gives up, or finds no record. -/
theorem plan_remove_cases (unshifted : (remove key).shift? store = none) :
    PlanStep.GivesUp ((remove key).plan store) ∨
      store.index[key]? = none ∧ (remove key).plan store = [] := by
  rw [plan, Store.whenOpen]
  cases isOpen : store.isOpen with
  | false => exact .inl (givesUp_refuse _)
  | true =>
      rw [shift?, if_pos isOpen, Store.resizing?] at unshifted
      rw [if_pos rfl, Store.removePlan]
      cases led : store.index[key]? with
      | none => exact .inr ⟨rfl, rfl⟩
      | some offset =>
          simp only [led] at unshifted ⊢
          have erases {plan : List PlanStep} (givesUp : PlanStep.GivesUp plan) :
              PlanStep.GivesUp (.reindex (·.erase key) :: plan) :=
            ⟨givesUp.accepts, givesUp.calls,
              List.forall_mem_cons.mpr ⟨fun _ => rfl, givesUp.updates⟩⟩
          left
          cases measured : store.measure offset with
          | error fault => exact erases (givesUp_measure measured _)
          | ok length =>
              simp only [measured] at unshifted ⊢
              have past : store.device.bytes.size < offset + (headerSize + length) := by
                by_contra inside
                have room := headerSize_pos
                rw [if_pos ⟨by omega, by omega⟩] at unshifted
                cases unshifted
              exact erases (givesUp_past measured past _ _)

/-- A put or a removal. -/
def Writes : StoreOperation → Prop
  | put .. | remove _ => True
  | _ => False

theorem Writes.cases {operation : StoreOperation} (writes : operation.Writes) :
    (∃ key payload, operation = put key payload) ∨ ∃ key, operation = remove key := by
  cases operation with
  | put key payload => exact .inl ⟨key, payload, rfl⟩
  | remove key => exact .inr ⟨key, rfl⟩
  | _ => exact writes.elim

theorem shift?_of_not_writes {operation : StoreOperation} (reads : ¬operation.Writes) :
    operation.shift? store = none := by
  cases operation with
  | put | remove => exact absurd trivial reads
  | _ => rfl

/-- Other operations count nothing but look-ups. -/
theorem updates_of_not_writes {operation : StoreOperation} (reads : ¬operation.Writes) {α : Type}
    {part : Stats → α} (lookup : ∀ stats : Stats, part stats.countLookup = part stats)
    (read : ∀ length (stats : Stats), part (stats.countRead length) = part stats) :
    ∀ update ∈ PlanStep.updates (operation.plan store), ∀ books,
      part (update books).stats = part books.stats := by
  have whenOpen {plan : List PlanStep} (kept : ∀ update ∈ PlanStep.updates plan, ∀ books,
      part (update books).stats = part books.stats) :
      ∀ update ∈ PlanStep.updates (store.whenOpen plan), ∀ books,
        part (update books).stats = part books.stats :=
    fun update member => kept update (store.updates_whenOpen_subset plan member)
  cases operation with
  | put | remove => exact absurd trivial reads
  | get key =>
      refine List.forall_mem_cons.mpr ⟨fun books => lookup books.stats, whenOpen ?_⟩
      rw [Store.getPlan]
      cases store.index[key]? with
      | none => exact List.forall_mem_nil _
      | some offset => exact List.forall_mem_singleton.mpr fun books => read _ books.stats
  | scan =>
      apply whenOpen
      rw [← Function.comp_def, ← List.map_map, PlanStep.updates_map_call]
      exact List.forall_mem_nil _
  | close =>
      rw [plan]
      split <;> exact List.forall_mem_nil _
  | _ => exact whenOpen (List.forall_mem_nil _)

end StoreOperation

/-! ## Turns -/

namespace StoreTurn

variable {δ : Type} [ByteDevice δ] [FaithfulDevice δ]

/-- The shift of the turn, if all its calls have been served. -/
def completed? (turn : StoreTurn (Logged δ)) : Option TailShift :=
  (turn.operation.shift? turn.before.inMemory).filter fun shift =>
    ((shift.calls turn.before.inMemory).map TracedCall.served).isPrefixOf turn.log

/-- How many bytes the turn has moved in a completed shift. -/
def moved (turn : StoreTurn (Logged δ)) : Nat :=
  turn.completed?.elim 0 fun shift => shift.length turn.before.inMemory

/-- How many of them were not counted because a removal was refused its sync. -/
def uncounted (turn : StoreTurn (Logged δ)) : Nat :=
  match turn.operation with
  | .remove _ => if turn.log.getLast? = some TracedCall.sync.refused then turn.moved else 0
  | _ => 0

variable {turn : StoreTurn (Logged δ)} {shift : TailShift}

theorem completed?_of_none (unshifted : turn.operation.shift? turn.before.inMemory = none) :
    turn.completed? = none := by
  rw [completed?, unshifted]
  rfl

theorem completed?_of_served (meant : turn.operation.shift? turn.before.inMemory = some shift)
    {further : List LoggedCall}
    (log : turn.log = (shift.calls turn.before.inMemory).map TracedCall.served ++ further) :
    turn.completed? = some shift := by
  rw [completed?, meant, log]
  simp

theorem completed?_of_cut (meant : turn.operation.shift? turn.before.inMemory = some shift)
    {made others : List TracedCall} {call : TracedCall}
    (calls : shift.calls turn.before.inMemory = made ++ call :: others)
    (log : turn.log = made.map TracedCall.served ++ [call.refused]) :
    turn.completed? = none := by
  rw [completed?, meant, log]
  simp [calls, TracedCall.served, TracedCall.refused]

/-! ## What a turn has counted -/

/-- The pointers behind the record have been adjusted, and the tail is counted unless a
removal was refused its sync. -/
structure CountsShift (turn : StoreTurn (Logged δ)) : Prop where
  bytesShifted : turn.after.stats.bytesShifted + turn.uncounted =
    turn.before.stats.bytesShifted + turn.moved
  index : ∀ shift, turn.completed? = some shift →
    turn.after.index =
      (turn.operation.unlisted turn.before.index).shiftFrom shift.source shift.delta

theorem countsShift_of_incomplete (incomplete : turn.completed? = none)
    (same : turn.after.stats.bytesShifted = turn.before.stats.bytesShifted) :
    turn.CountsShift := by
  have nothing : turn.moved = 0 := by rw [moved, incomplete]; rfl
  have nothingMissed : turn.uncounted = 0 := by
    rw [uncounted, nothing]
    split
    · exact ite_self 0
    · rfl
  refine ⟨by rw [same, nothing, nothingMissed], ?_⟩
  intro shift completed
  rw [incomplete] at completed
  cases completed

theorem countsShift_of_complete (completed : turn.completed? = some shift)
    (bytesShifted : turn.after.stats.bytesShifted + turn.uncounted =
      turn.before.stats.bytesShifted + shift.length turn.before.inMemory)
    (index : turn.after.index =
      (turn.operation.unlisted turn.before.index).shiftFrom shift.source shift.delta) :
    turn.CountsShift := by
  have length : turn.moved = shift.length turn.before.inMemory := by rw [moved, completed]; rfl
  refine ⟨by rw [length, bytesShifted], ?_⟩
  intro other same
  cases completed.symm.trans same
  exact index

theorem countsShift_put {key : EntityId} {payload : ByteArray} (carries : turn.Carries)
    (put : turn.operation = .put key payload) : turn.CountsShift := by
  have carried := carries.carried
  cases meant : turn.operation.shift? turn.before.inMemory with
  | none =>
      apply countsShift_of_incomplete (completed?_of_none meant)
      rw [put] at carried meant
      rcases StoreOperation.plan_put_cases meant with givesUp | ⟨_, plan⟩ | ⟨offset, _, plan⟩
      · exact congrArg Stats.bytesShifted (carried.kept (·.stats) givesUp.updates)
      · rw [plan] at carried
        apply carried.kept (·.stats.bytesShifted)
        rw [PlanStep.updates_append, PlanStep.updates_map_call, ite_self, List.append_nil]
        exact List.forall_mem_cons.mpr ⟨fun _ => rfl, List.forall_mem_singleton.mpr fun _ => rfl⟩
      · rw [plan] at carried
        apply carried.kept (·.stats.bytesShifted)
        rw [PlanStep.updates_append, PlanStep.updates_map_call, ite_self, List.append_nil]
        exact List.forall_mem_singleton.mpr fun _ => rfl
  | some shift =>
      have shifts := meant
      rw [put] at shifts
      rw [put, StoreOperation.plan_put_of_shift shifts] at carried
      rcases carried.cases_calls_append with
        ⟨further, log, rest⟩ | ⟨_, unchanged, made, call, others, calls, log⟩
      · have completed := completed?_of_served meant log
        have nothingMissed : turn.uncounted = 0 := by rw [uncounted, put]
        -- The shift is counted at once, so it does not matter how far the rest has come.
        have finishing := rest.of_book.of_book
        have kept := finishing.kept (fun books => (books.index, books.stats.bytesShifted)) (by
          simp only [PlanStep.updates, PlanStep.count, PlanStep.updates_map_call]
          exact List.forall_mem_singleton.mpr fun _ => rfl)
        rcases Prod.mk.inj kept with ⟨index, bytesShifted⟩
        apply countsShift_of_complete completed
        · rw [nothingMissed]
          exact bytesShifted
        · rw [put]
          exact index
      · exact countsShift_of_incomplete (completed?_of_cut meant calls log)
          (congrArg (fun books : Books => books.stats.bytesShifted) unchanged)

theorem getLast?_served (calls : List TracedCall) :
    (calls.map TracedCall.served).getLast? ≠ some TracedCall.sync.refused := by
  rw [List.getLast?_map]
  cases calls.getLast? <;> simp [TracedCall.served, TracedCall.refused]

theorem countsShift_remove {key : EntityId} (carries : turn.Carries)
    (remove : turn.operation = .remove key) : turn.CountsShift := by
  have carried := carries.carried
  cases meant : turn.operation.shift? turn.before.inMemory with
  | none =>
      apply countsShift_of_incomplete (completed?_of_none meant)
      rw [remove] at carried meant
      rcases StoreOperation.plan_remove_cases meant with givesUp | ⟨_, plan⟩
      · exact congrArg Stats.bytesShifted (carried.kept (·.stats) givesUp.updates)
      · rw [plan] at carried
        exact carried.kept (·.stats.bytesShifted) (List.forall_mem_nil _)
  | some shift =>
      have shifts := meant
      rw [remove] at shifts
      rw [remove, StoreOperation.plan_remove_of_shift shifts] at carried
      rcases carried.of_book.cases_calls_append with
        ⟨further, log, rest⟩ | ⟨_, unchanged, made, call, others, calls, log⟩
      · have completed := completed?_of_served meant log
        rcases rest.of_book.cases_calls_append with
          ⟨ending, synced, counted⟩ | ⟨_, same, _, call, _, calls, unsynced⟩
        · rcases counted.of_book.of_book.of_nil with ⟨rfl, books⟩
          have nothingMissed : turn.uncounted = 0 := by
            rw [uncounted, remove, log, synced, List.append_nil, ← List.map_append]
            exact if_neg (getLast?_served _)
          apply countsShift_of_complete completed
          · rw [nothingMissed]
            exact congrArg (fun books : Books => books.stats.bytesShifted) books
          · rw [remove]
            exact congrArg Books.index books
        · -- The counting stands behind the refused sync in the plan and is not done.
          have missed : turn.uncounted = shift.length turn.before.inMemory := by
            have last : call = .sync := Store.eq_sync_of_mem (calls ▸ List.mem_append_cons_self)
            rw [uncounted, remove, log, unsynced, ← List.append_assoc, last, moved, completed]
            exact if_pos List.getLast?_concat
          apply countsShift_of_complete completed
          · rw [missed]
            exact congrArg (fun books : Books => books.stats.bytesShifted + _) same
          · rw [remove]
            exact congrArg Books.index same
      · exact countsShift_of_incomplete (completed?_of_cut meant calls log)
          (congrArg (fun books : Books => books.stats.bytesShifted) unchanged)

theorem Carries.countsShift (carries : turn.Carries) : turn.CountsShift := by
  by_cases writes : turn.operation.Writes
  · rcases writes.cases with ⟨key, payload, put⟩ | ⟨key, remove⟩
    · exact countsShift_put carries put
    · exact countsShift_remove carries remove
  · exact countsShift_of_incomplete
      (completed?_of_none (StoreOperation.shift?_of_not_writes writes))
      (carries.carried.kept (·.stats.bytesShifted)
        (StoreOperation.updates_of_not_writes writes (fun _ => rfl) fun _ _ => rfl))

end StoreTurn

/-! ## Runs -/

/-- Whatever calls are refused in a run, every shift that came to its end has adjusted the
pointers, and the counter of shifted bytes is the sum of the tails that were moved, less those
of removals that were refused their sync afterwards. -/
theorem StoreOperation.completed_shifts {δ : Type} [ByteDevice δ] [FaithfulDevice δ]
    {config : Config} {device : Logged δ} {store : Store (Logged δ)}
    (sound : FaithfulDevice.Sound device)
    (accepted : Store.openDevice config device = .ok store)
    (operations : List StoreOperation) :
    (∀ turn ∈ history operations store, turn.CountsShift) ∧
      (runAll operations store).2.stats.bytesShifted +
          ((history operations store).map StoreTurn.uncounted).sum =
        ((history operations store).map StoreTurn.moved).sum := by
  have opened := (Store.openDevice_ok sound accepted).1
  have counted : ∀ turn ∈ history operations store, turn.CountsShift :=
    fun turn member => (carries_history opened operations turn member).countsShift
  refine ⟨counted, ?_⟩
  have total := balance_runAll Stats.bytesShifted
    fun turn member => (counted turn member).bytesShifted
  rw [total, (Store.openDevice_fresh accepted).2]
  exact Nat.zero_add _

/-- An empty device that can be synced twice. -/
def twiceSynced : Logged (Faulty Memory) :=
  ⟨⟨⟨ByteArray.empty⟩, [(.sync, 2)]⟩, []⟩

/-- The store that is opened on it. -/
def twiceSyncedStore : Store (Logged (Faulty Memory)) :=
  (Store.opened { syncOnWrite := true } []).withDevice
    { twiceSynced with log := [TracedCall.size.served] }

/-- A third write fails in its sync. If it is a put, its shift is counted nevertheless. -/
theorem StoreOperation.completed_shifts_put :
    let operations : List StoreOperation :=
      [.put (.replicate 1) ⟨#[97, 98, 99]⟩, .put (.replicate 2) ⟨#[120, 121, 122]⟩,
        .put (.replicate 1) ⟨#[97]⟩]
    Store.openDevice { syncOnWrite := true } twiceSynced = .ok twiceSyncedStore ∧
      (runAll operations twiceSyncedStore).1 =
        [.ok .done, .ok .done, .error (.device (Faulty.refusal .sync))] ∧
      (history operations twiceSyncedStore).map StoreTurn.uncounted = [0, 0, 0] ∧
      (runAll operations twiceSyncedStore).2.stats.bytesShifted = 23 := by
  intro operations
  have accepted : Store.openDevice { syncOnWrite := true } twiceSynced = .ok twiceSyncedStore := by
    cbv
  have answers : (runAll operations twiceSyncedStore).1 =
      [.ok .done, .ok .done, .error (.device (Faulty.refusal .sync))] := by
    decide +kernel
  have missed : (history operations twiceSyncedStore).map StoreTurn.uncounted = [0, 0, 0] := by
    decide +kernel
  have tails : (history operations twiceSyncedStore).map StoreTurn.moved = [0, 0, 23] := by
    decide +kernel
  have counted := (completed_shifts trivial accepted operations).2
  rw [missed, tails] at counted
  exact ⟨accepted, answers, missed, counted⟩

/-- If it is a removal, the tail has been moved down and the pointer adjusted, but nothing is
counted. -/
theorem StoreOperation.completed_shifts_remove :
    let operations : List StoreOperation :=
      [.put (.replicate 1) ⟨#[97, 98, 99]⟩, .put (.replicate 2) ⟨#[120, 121, 122]⟩,
        .remove (.replicate 1)]
    Store.openDevice { syncOnWrite := true } twiceSynced = .ok twiceSyncedStore ∧
      (runAll operations twiceSyncedStore).1 =
        [.ok .done, .ok .done, .error (.device (Faulty.refusal .sync))] ∧
      ((history operations twiceSyncedStore).map StoreTurn.moved).sum = 23 ∧
      (runAll operations twiceSyncedStore).2.index[EntityId.replicate 2]? = some 0 ∧
      (runAll operations twiceSyncedStore).2.stats.bytesShifted = 0 := by
  refine ⟨?_, ?_, ?_, ?_, ?_⟩
  · cbv
  all_goals decide +kernel

end PackedRecords
