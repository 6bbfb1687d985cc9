import PackedRecords.Proofs.Interruption
import PackedRecords.Proofs.Store.CompletedShifts

/-! # Synced writes

A device is unsynced from the first call that changes its bytes to the next sync. With a sync
on every write a store leaves it unsynced only where a call is refused: a put and a removal
end in their one sync, and what else is done to the store changes no bytes and makes no sync.
-/

namespace PackedRecords

/-! ## Bytes that are not durable -/

/-- Whether the device is unsynced after a call, given whether it was before. -/
def LoggedCall.unsyncedAfter (before : Bool) (entry : LoggedCall) : Bool :=
  match entry.call with
  | .writeAt .. | .append _ | .extend _ | .truncate _ => true
  | .sync => before && !entry.served
  | _ => before

/-- A call has changed the bytes since the last sync. -/
def unsynced (log : List LoggedCall) : Bool :=
  log.foldl LoggedCall.unsyncedAfter false

theorem unsynced_append_sync (log : List LoggedCall) (calls : List TracedCall) :
    unsynced (log ++ (calls ++ [TracedCall.sync]).map TracedCall.served) = false := by
  rw [unsynced, List.map_append, ← List.append_assoc, List.foldl_append]
  exact Bool.and_false _

theorem unsynced_append_of_looks (log : List LoggedCall) {further : List LoggedCall}
    (looks : ∀ entry ∈ further, entry.call.Looks) : unsynced (log ++ further) = unsynced log := by
  have same (before : Bool) : further.foldl LoggedCall.unsyncedAfter before = before := by
    induction further with
    | nil => rfl
    | cons entry rest induction =>
        rcases List.forall_mem_cons.mp looks with ⟨here, later⟩
        have first : entry.unsyncedAfter before = before := by
          rcases entry with ⟨call, served⟩
          cases call with
          | readAt | readInto | size | flush => rfl
          | writeAt | append | extend | truncate | sync => exact here.elim
        rw [List.foldl_cons, first]
        exact induction later
  rw [unsynced, List.foldl_append, same]
  rfl

/-! ## Calls of a shift -/

section Calls

variable (buffer : Nat) (positive : 0 < buffer)

theorem copyUpCalls_ne_sync (source distance remaining : Nat) :
    ∀ call ∈ copyUpCalls buffer positive source distance remaining, call ≠ .sync := by
  fun_induction copyUpCalls buffer positive source distance remaining with
  | case1 => exact List.forall_mem_nil _
  | case2 remaining more chunk front induction =>
      exact List.forall_mem_cons.mpr
        ⟨TracedCall.noConfusion, List.forall_mem_cons.mpr ⟨TracedCall.noConfusion, induction⟩⟩

theorem copyDownCalls_ne_sync (source distance remaining : Nat) :
    ∀ call ∈ copyDownCalls buffer positive source distance remaining, call ≠ .sync := by
  fun_induction copyDownCalls buffer positive source distance remaining with
  | case1 => exact List.forall_mem_nil _
  | case2 source remaining more chunk induction =>
      exact List.forall_mem_cons.mpr
        ⟨TracedCall.noConfusion, List.forall_mem_cons.mpr ⟨TracedCall.noConfusion, induction⟩⟩

theorem moveCalls_ne_sync (size source : Nat) (delta : Int) :
    ∀ call ∈ moveCalls buffer positive size source delta, call ≠ .sync := by
  rcases delta with (_ | distance) | below
  · exact List.forall_mem_nil _
  · exact List.forall_mem_cons.mpr ⟨TracedCall.noConfusion, copyUpCalls_ne_sync _ _ _ _ _⟩
  · exact List.forall_mem_append.mpr ⟨copyDownCalls_ne_sync _ _ _ _ _,
      List.forall_mem_singleton.mpr TracedCall.noConfusion⟩

end Calls

theorem TailShift.calls_ne_sync (shift : TailShift) (store : Store Memory) :
    ∀ call ∈ shift.calls store, call ≠ .sync :=
  List.forall_mem_cons.mpr ⟨TracedCall.noConfusion,
    List.forall_mem_cons.mpr ⟨TracedCall.noConfusion, moveCalls_ne_sync _ _ _ _ _⟩⟩

/-! ## Plans -/

/-- If no call is refused the plan comes to its end, and it makes no sync but those that the
settings ask for after everything else. -/
structure PlanStep.Syncs (plan : List PlanStep) (config : Config) : Prop where
  accepts : accepts plan = true
  calls : ∃ made, calls plan = made ++ Store.syncCalls config ∧ ∀ call ∈ made, call ≠ .sync

namespace StoreOperation

variable {store : Store Memory} {key : EntityId}

theorem plan_put_syncs (key : EntityId) (payload : ByteArray) (store : Store Memory) :
    PlanStep.GivesUp ((put key payload).plan store) ∨
      PlanStep.Syncs ((put key payload).plan store) store.config := by
  have ends {first : List PlanStep} (accepts : PlanStep.accepts first = true)
      (others : ∀ call ∈ PlanStep.calls first, call ≠ .sync) :
      PlanStep.Syncs (first ++ (Store.syncCalls store.config).map .call) store.config := by
    refine ⟨?_, _, ?_, others⟩
    · rw [PlanStep.accepts_append, accepts, PlanStep.accepts_map_call]
      rfl
    · rw [PlanStep.calls_append, if_pos accepts, PlanStep.calls_map_call]
  cases meant : (put key payload).shift? store with
  | none =>
      rcases plan_put_cases meant with givesUp | ⟨_, same⟩ | ⟨offset, _, same⟩
      · exact .inl givesUp
      · rw [same]
        exact .inr (ends rfl (by
          simp [PlanStep.calls, Store.appendPlan, PlanStep.reindex, PlanStep.count]))
      · rw [same]
        exact .inr (ends rfl (by simp [PlanStep.calls, PlanStep.count]))
  | some shift =>
      let finishing : List PlanStep := [.reindex (·.shiftFrom shift.source shift.delta),
        .count (Stats.countShift (shift.length store)),
        .call (.writeAt (shift.place + keySize) lengthSize),
        .call (.writeAt (shift.place + headerSize) payload.size),
        .count (Stats.countShiftedUpdate (headerSize + payload.size))]
      have regrouped : (put key payload).plan store =
          (shift.calls store).map .call ++ finishing ++
            (Store.syncCalls store.config).map .call := by
        rw [plan_put_of_shift meant, List.append_assoc]
        rfl
      rw [regrouped]
      refine .inr (ends ?_ ?_)
      · rw [PlanStep.accepts_append, PlanStep.accepts_map_call]
        rfl
      · rw [PlanStep.calls_append, PlanStep.accepts_map_call, if_pos rfl, PlanStep.calls_map_call]
        exact List.forall_mem_append.mpr ⟨shift.calls_ne_sync store, by
          simp [finishing, PlanStep.calls, PlanStep.reindex, PlanStep.count]⟩

theorem plan_remove_syncs (key : EntityId) (store : Store Memory) :
    PlanStep.GivesUp ((remove key).plan store) ∨
      store.index[key]? = none ∧ (remove key).plan store = [] ∨
      store.index[key]? ≠ none ∧
        PlanStep.Syncs ((remove key).plan store) store.config := by
  cases meant : (remove key).shift? store with
  | none =>
      rcases plan_remove_cases meant with givesUp | nothing
      · exact .inl givesUp
      · exact .inr (.inl nothing)
  | some shift =>
      have led := getElem?_index_of_shift meant (.inl rfl)
      refine .inr (.inr ⟨by rw [led]; exact Option.some_ne_none _, ?_, shift.calls store, ?_,
        shift.calls_ne_sync store⟩)
      · simp [plan_remove_of_shift meant, PlanStep.accepts, PlanStep.accepts_append,
          PlanStep.accepts_map_call, PlanStep.reindex, PlanStep.count]
      · simp [plan_remove_of_shift meant, PlanStep.calls, PlanStep.calls_append,
          PlanStep.accepts_map_call, PlanStep.calls_map_call, PlanStep.reindex, PlanStep.count]

/-- What neither puts nor removes makes only calls that look, but for the sync itself. -/
theorem looks_of_not_writes {operation : StoreOperation} (reads : ¬operation.Writes)
    (notSync : operation ≠ .sync) :
    ∀ call ∈ PlanStep.calls (operation.plan store), call.Looks := by
  have whenOpen {plan : List PlanStep} (looks : ∀ call ∈ PlanStep.calls plan, call.Looks) :
      ∀ call ∈ PlanStep.calls (store.whenOpen plan), call.Looks :=
    fun call member => looks call (store.calls_whenOpen_subset plan member)
  cases operation with
  | put | remove => exact absurd trivial reads
  | sync => exact absurd rfl notSync
  | get key =>
      apply whenOpen
      rw [Store.getPlan]
      cases store.index[key]? with
      | none => exact List.forall_mem_nil _
      | some offset =>
          exact List.forall_mem_cons.mpr ⟨trivial, List.forall_mem_singleton.mpr trivial⟩
  | scan =>
      apply whenOpen
      rw [← Function.comp_def, ← List.map_map, PlanStep.calls_map_call]
      intro call member
      rcases List.mem_map.mp member with ⟨entry, _, rfl⟩
      exact trivial
  | close =>
      rw [plan]
      split
      · exact List.forall_mem_singleton.mpr trivial
      · exact List.forall_mem_nil _
  | fileSize | flush => exact whenOpen (List.forall_mem_singleton.mpr trivial)
  | _ => exact whenOpen (List.forall_mem_nil _)

end StoreOperation

theorem TracedCall.Looks.ne_sync {call : TracedCall} (looks : call.Looks) : call ≠ .sync := by
  rintro rfl
  exact looks

/-! ## Turns -/

/-- A removal that comes to its end says whether there was a record. -/
theorem Store.remove_ok {δ : Type} [ByteDevice δ] {key : EntityId} {store after : Store δ}
    {removed : Bool} (ran : remove key store = .ok removed after) :
    removed = store.index[key]?.isSome := by
  rcases store with ⟨device, index, config, stats, isOpen⟩
  cases isOpen with
  | false =>
      cases ran
  | true =>
      rw [remove, bind_of_ok (requireOpen_run _), bind_of_ok (offset?_run key _)] at ran
      change removed = index[key]?.isSome
      cases led : index[key]? with
      | none =>
          rw [led] at ran
          cases ran
          rfl
      | some offset =>
          rw [led] at ran
          rcases exists_of_bind_ok ran with ⟨_, _, _, afterErase⟩
          rcases exists_of_bind_ok afterErase with ⟨_, _, _, afterLength⟩
          rcases exists_of_bind_ok afterLength with ⟨_, _, _, afterShift⟩
          rcases exists_of_bind_ok afterShift with ⟨_, _, _, afterSync⟩
          rcases exists_of_bind_ok afterSync with ⟨_, _, _, afterCount⟩
          rcases exists_of_bind_ok afterCount with ⟨_, _, _, returned⟩
          cases returned
          rfl

namespace StoreTurn

variable {δ : Type} [ByteDevice δ] [FaithfulDevice δ] {turn : StoreTurn (Logged δ)}
  {key : EntityId}

/-- A put or removal that has done something made one sync, after its other calls. Anything
else, but for a sync, made only calls that look. -/
structure Synced (turn : StoreTurn (Logged δ)) : Prop where
  writes : turn.stored?.isSome ∨ turn.removed?.isSome →
    ∃ calls, turn.log = (calls ++ [TracedCall.sync]).map TracedCall.served ∧
      ∀ call ∈ calls, call ≠ .sync
  others : turn.stored? = none → turn.removed? = none → turn.operation ≠ .sync →
    ∀ entry ∈ turn.log, entry.call.Looks

omit [ByteDevice δ] [FaithfulDevice δ] in
theorem isSome_stored? {payload : ByteArray} (put : turn.operation = .put key payload) :
    turn.stored?.isSome = turn.answer.isOk ∧ turn.removed? = none := by
  rw [stored?, removed?, put]
  cases turn.answer <;> exact ⟨rfl, rfl⟩

omit [ByteDevice δ] [FaithfulDevice δ] in
theorem idle_of_not_writes (reads : ¬turn.operation.Writes) :
    turn.stored? = none ∧ turn.removed? = none := by
  rcases turn with ⟨operation, before, answer, after⟩
  cases operation with
  | put | remove => exact absurd trivial reads
  | _ => exact ⟨rfl, rfl⟩

omit [ByteDevice δ] [FaithfulDevice δ] in
theorem not_wrote_of_idle (idle : turn.stored? = none ∧ turn.removed? = none) :
    ¬(turn.stored?.isSome ∨ turn.removed?.isSome) := by
  simp [idle]

theorem isSome_removed? (carries : turn.Carries) (remove : turn.operation = .remove key) :
    turn.removed?.isSome = (turn.answer.isOk && turn.before.index[key]?.isSome) ∧
      turn.stored? = none := by
  have answer : turn.answer = ((StoreOperation.remove key).outcome turn.before).1 := by
    rw [carries.ran, remove]
    rfl
  rw [StoreOperation.outcome, StoreOperation.run] at answer
  rw [removed?, stored?, remove]
  cases ran : Store.remove key turn.before with
  | ok removed after =>
      rw [bind_of_ok ran] at answer
      rw [answer, ← Store.remove_ok ran]
      cases removed <;> exact ⟨rfl, rfl⟩
  | error failure after =>
      rw [bind_of_error ran] at answer
      rw [answer]
      exact ⟨rfl, rfl⟩

/-! ### With a sync on every write -/

section Syncing

variable (carries : turn.Carries)
include carries

theorem synced_of_looks (idle : turn.stored? = none ∧ turn.removed? = none)
    (looks : ∀ call ∈ PlanStep.calls (turn.operation.plan turn.before.inMemory), call.Looks) :
    turn.Synced where
  writes wrote := absurd wrote (not_wrote_of_idle idle)
  others _ _ _ entry member := looks _ (carries.carried.planned entry member)

variable (served : turn.Served)
include served

theorem synced_of_syncs (syncing : turn.before.config.syncOnWrite = true)
    (syncs : PlanStep.Syncs (turn.operation.plan turn.before.inMemory) turn.before.config)
    (wrote : turn.answer.isOk = true → turn.stored?.isSome ∨ turn.removed?.isSome) :
    turn.Synced := by
  rcases carries.carried.of_served served with ⟨ended, log, _⟩
  rcases syncs with ⟨accepts, made, calls, others⟩
  rw [Store.syncCalls, if_pos syncing] at calls
  rw [calls] at log
  refine ⟨fun _ => ⟨made, log, others⟩, ?_⟩
  intro notStored notRemoved
  exact absurd (wrote (ended.trans accepts)) (not_wrote_of_idle ⟨notStored, notRemoved⟩)

theorem isOk_of_givesUp
    (givesUp : PlanStep.GivesUp (turn.operation.plan turn.before.inMemory)) :
    turn.answer.isOk = false :=
  (carries.carried.of_served served).1.trans givesUp.accepts

theorem synced_put (syncing : turn.before.config.syncOnWrite = true) {payload : ByteArray}
    (put : turn.operation = .put key payload) : turn.Synced := by
  rcases isSome_stored? put with ⟨stored, notRemoved⟩
  have planned := StoreOperation.plan_put_syncs key payload turn.before.inMemory
  rw [← put] at planned
  rcases planned with givesUp | syncs
  · rw [isOk_of_givesUp carries served givesUp] at stored
    exact synced_of_looks carries ⟨by simpa using stored, notRemoved⟩ givesUp.calls
  · exact synced_of_syncs carries served syncing syncs fun ended => .inl (stored.trans ended)

theorem synced_remove (syncing : turn.before.config.syncOnWrite = true)
    (remove : turn.operation = .remove key) : turn.Synced := by
  rcases isSome_removed? carries remove with ⟨removed, notStored⟩
  have planned := StoreOperation.plan_remove_syncs key turn.before.inMemory
  rw [← remove] at planned
  rcases planned with givesUp | ⟨missing, plan⟩ | ⟨found, syncs⟩
  · rw [isOk_of_givesUp carries served givesUp, Bool.false_and] at removed
    exact synced_of_looks carries ⟨notStored, by simpa using removed⟩ givesUp.calls
  · change turn.before.index[key]? = none at missing
    rw [missing, Option.isSome_none, Bool.and_false] at removed
    refine synced_of_looks carries ⟨notStored, by simpa using removed⟩ ?_
    rw [plan]
    exact List.forall_mem_nil _
  · refine synced_of_syncs carries served syncing syncs fun ended => .inr ?_
    rw [removed, ended]
    exact Option.isSome_iff_ne_none.mpr found

theorem Carries.synced (syncing : turn.before.config.syncOnWrite = true) : turn.Synced := by
  by_cases writes : turn.operation.Writes
  · rcases writes.cases with ⟨key, payload, put⟩ | ⟨key, remove⟩
    · exact synced_put carries served syncing put
    · exact synced_remove carries served syncing remove
  · have idle := idle_of_not_writes writes
    by_cases sync : turn.operation = .sync
    · exact ⟨fun wrote => absurd wrote (not_wrote_of_idle idle),
        fun _ _ notSync => absurd sync notSync⟩
    · exact synced_of_looks carries idle (StoreOperation.looks_of_not_writes writes sync)

/-- A turn leaves nothing unsynced. -/
theorem Carries.unsynced_after (syncing : turn.before.config.syncOnWrite = true)
    (before : unsynced turn.before.device.log = false) :
    unsynced turn.after.device.log = false := by
  have synced := carries.synced served syncing
  rw [carries.log]
  by_cases wrote : turn.stored?.isSome ∨ turn.removed?.isSome
  · rcases synced.writes wrote with ⟨calls, log, _⟩
    rw [log]
    exact unsynced_append_sync _ calls
  · by_cases sync : turn.operation = .sync
    · have log := (carries.carried.of_served served).2.1
      rw [sync, StoreOperation.plan, Store.whenOpen] at log
      rw [log]
      split
      · exact unsynced_append_sync _ []
      · rw [PlanStep.calls, List.map_nil, List.append_nil]
        exact before
    · rw [unsynced_append_of_looks _ (synced.others (by simp_all) (by simp_all) sync)]
      exact before

end Syncing

/-! ### Without -/

theorem Carries.ne_sync_of_writes (carries : turn.Carries) (writes : turn.operation.Writes)
    (notSyncing : turn.before.config.syncOnWrite = false) :
    ∀ entry ∈ turn.log, entry.call ≠ .sync := by
  have looks (givesUp : PlanStep.GivesUp (turn.operation.plan turn.before.inMemory)) :
      ∀ call ∈ PlanStep.calls (turn.operation.plan turn.before.inMemory), call ≠ .sync :=
    fun call member => (givesUp.calls call member).ne_sync
  have ends (syncs : PlanStep.Syncs (turn.operation.plan turn.before.inMemory)
      turn.before.config) :
      ∀ call ∈ PlanStep.calls (turn.operation.plan turn.before.inMemory), call ≠ .sync := by
    rcases syncs.calls with ⟨made, calls, others⟩
    rw [calls, Store.syncCalls, notSyncing, if_neg Bool.false_ne_true, List.append_nil]
    exact others
  have none : ∀ call ∈ PlanStep.calls (turn.operation.plan turn.before.inMemory),
      call ≠ .sync := by
    rcases writes.cases with ⟨key, payload, put⟩ | ⟨key, remove⟩
    · have planned := StoreOperation.plan_put_syncs key payload turn.before.inMemory
      rw [← put] at planned
      exact planned.elim looks ends
    · have planned := StoreOperation.plan_remove_syncs key turn.before.inMemory
      rw [← remove] at planned
      rcases planned with givesUp | ⟨_, plan⟩ | ⟨_, syncs⟩
      · exact looks givesUp
      · rw [plan]
        exact List.forall_mem_nil _
      · exact ends syncs
  exact fun entry member => none _ (carries.carried.planned entry member)

end StoreTurn

/-! ## Opening -/

namespace Store

variable {δ α : Type}

theorem keeps_lift (call : TracedCall) (looks : call.Looks) (action : DeviceM δ α) :
    Keeps (fun device : Logged δ => unsynced device.log = false)
      (OpeningM.onDevice (Logged.lift call action)) fun _ => True := by
  intro ⟨device, log⟩ synced
  have kept (served : Bool) : unsynced (log ++ [⟨call, served⟩]) = false :=
    (unsynced_append_of_looks log (List.forall_mem_singleton.mpr looks)).trans synced
  rw [OpeningM.onDevice, Logged.lift]
  cases action device with
  | ok value after => exact ⟨kept true, trivial⟩
  | error failure after => exact kept false

variable [ByteDevice δ]

theorem keeps_readRecord (limit size offset : Nat) :
    Keeps (fun device : Logged δ => unsynced device.log = false) (readRecord limit size offset)
      fun _ => True := by
  rw [readRecord]
  by_cases short : size < offset + headerSize
  · simp only [if_pos short]
    exact keeps_throw_bind _ _
  · simp only [if_neg short]
    refine Keeps.bind (keeps_lift (.readInto offset headerSize) trivial _) fun bytes _ => ?_
    cases (Header.decode bytes).validate limit with
    | error fault => exact keeps_throw _
    | ok length =>
        by_cases past : size < offset + headerSize + length
        · simp only [if_pos past]
          exact keeps_throw_bind _ _
        · simp only [if_neg past]
          exact keeps_pure trivial

theorem keeps_indexRecords (limit size offset : Nat) (index : Index) :
    Keeps (fun device : Logged δ => unsynced device.log = false)
      (indexRecords limit size offset index) fun _ => True := by
  fun_induction indexRecords (δ := Logged δ) limit size offset index with
  | case1 => exact keeps_pure trivial
  | case2 offset index more induction =>
      refine (keeps_readRecord limit size offset).bind ?_
      rintro ⟨key, length⟩ _
      exact induction key length

theorem unsynced_openDevice {config : Config} {device : Logged δ} {store : Store (Logged δ)}
    (synced : unsynced device.log = false) (accepted : openDevice config device = .ok store) :
    unsynced store.device.log = false := by
  have keeps : Keeps (fun device : Logged δ => unsynced device.log = false)
      (buildIndex config.payloadLimit) fun _ => True :=
    Keeps.bind (keeps_lift .size trivial _) fun size _ => keeps_indexRecords _ size 0 ∅
  rw [openDevice] at accepted
  cases built : buildIndex config.payloadLimit device with
  | ok index after =>
      rw [built] at accepted
      cases accepted
      exact (keeps.ok synced built).1
  | error failure after =>
      rw [built] at accepted
      cases accepted

end Store

/-! ## Runs -/

/-- A store that syncs on every write leaves nothing unsynced, as long as the device refuses no
call. Each put and removal makes its one sync as its last call; whatever else is done makes
none. Without this setting puts and removals make no sync, whatever calls are refused. -/
theorem StoreOperation.synced_writes {δ : Type} [ByteDevice δ] [FaithfulDevice δ]
    {config : Config} {device : Logged δ} {store : Store (Logged δ)}
    (sound : FaithfulDevice.Sound device)
    (accepted : Store.openDevice config device = .ok store) (operations : List StoreOperation) :
    (config.syncOnWrite = true → unsynced device.log = false →
        (∀ turn ∈ history operations store, turn.Served) →
        ∀ turn ∈ history operations store,
          unsynced turn.after.device.log = false ∧ turn.Synced) ∧
      (config.syncOnWrite = false → ∀ turn ∈ history operations store, turn.operation.Writes →
        ∀ entry ∈ turn.log, entry.call ≠ .sync) := by
  have opened := (Store.openDevice_ok sound accepted).1
  have sameConfig := (Store.openDevice_fresh accepted).1
  constructor
  · intro syncing synced served
    have step (operation : StoreOperation) (reached : Store (Logged δ))
        (holds : FaithfulDevice.Sound reached.device ∧ reached.config.syncOnWrite = true ∧
          unsynced reached.device.log = false) (turnServed : (operation.turn reached).Served) :
        (unsynced (operation.turn reached).after.device.log = false ∧
          (operation.turn reached).Synced) ∧
        FaithfulDevice.Sound (operation.outcome reached).2.device ∧
          (operation.outcome reached).2.config.syncOnWrite = true ∧
          unsynced (operation.outcome reached).2.device.log = false := by
      rcases holds with ⟨reachedSound, reachedSyncing, reachedSynced⟩
      have carries := operation.carries_turn reachedSound
      have after := carries.unsynced_after turnServed reachedSyncing reachedSynced
      refine ⟨⟨after, carries.synced turnServed reachedSyncing⟩,
        operation.sound_outcome reachedSound, ?_, after⟩
      exact (congrArg Config.syncOnWrite carries.config).trans reachedSyncing
    exact forall_history StoreTurn.Served step
      ⟨opened, sameConfig ▸ syncing, Store.unsynced_openDevice synced accepted⟩ served
  · intro notSyncing
    have step (operation : StoreOperation) (reached : Store (Logged δ))
        (holds : FaithfulDevice.Sound reached.device ∧ reached.config.syncOnWrite = false)
        (_ : True) :
        ((operation.turn reached).operation.Writes →
          ∀ entry ∈ (operation.turn reached).log, entry.call ≠ .sync) ∧
        FaithfulDevice.Sound (operation.outcome reached).2.device ∧
          (operation.outcome reached).2.config.syncOnWrite = false := by
      have carries := operation.carries_turn holds.1
      exact ⟨fun writes => carries.ne_sync_of_writes writes holds.2,
        operation.sound_outcome holds.1,
        (congrArg Config.syncOnWrite carries.config).trans holds.2⟩
    exact forall_history (fun _ => True) step ⟨opened, sameConfig ▸ notSyncing⟩
      fun _ _ => trivial

/-- A record is added, replaced in its place, made longer and removed; a put that is refused
and a scan come between. -/
theorem StoreOperation.synced_writes_kinds :
    let operations : List StoreOperation :=
      [.put (.replicate 1) ⟨#[97, 98]⟩, .put (.replicate 1) ⟨#[99, 100]⟩,
        .put (.replicate 1) ⟨#[101, 102, 103]⟩, .put (.replicate 2) (zeroBytes 4), .scan,
        .remove (.replicate 1), .remove (.replicate 1)]
    let synced : Config := { syncOnWrite := true, maxPayloadSize := 3 }
    let plain : Config := { maxPayloadSize := 3 }
    (∀ turn ∈ history operations (Store.onFresh synced),
        unsynced turn.after.device.log = false ∧ turn.Synced) ∧
      (history operations (Store.onFresh synced)).map
          (fun turn => turn.log.countP fun entry => entry.call = .sync) = [1, 1, 1, 0, 0, 1, 0] ∧
      (∀ turn ∈ history operations (Store.onFresh plain), turn.operation.Writes →
        ∀ entry ∈ turn.log, entry.call ≠ .sync) := by
  intro operations synced plain
  have served : ∀ turn ∈ history operations (Store.onFresh synced), turn.Served := by
    decide +kernel
  have whenSynced := synced_writes trivial (Store.openDevice_fresh_device synced) operations
  have whenPlain := synced_writes trivial (Store.openDevice_fresh_device plain) operations
  exact ⟨whenSynced.1 rfl rfl served, by cbv, whenPlain.2 rfl⟩

end PackedRecords
