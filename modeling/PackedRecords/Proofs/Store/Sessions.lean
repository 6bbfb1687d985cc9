import PackedRecords.Proofs.Store.Opening
import PackedRecords.Store.Medium

/-! # Sessions

A session works on one medium: it operates the open store and opens the medium again
whenever it likes. On a faithful medium that refuses nothing it does what it does in
memory.
-/

namespace PackedRecords

/-! ## Steps of a session -/

/-- An operation of the open store, or another opening of the medium. -/
inductive SessionStep where
  | operate (operation : StoreOperation)
  | reopen (config : Config)
deriving DecidableEq, Inhabited

/-- What a step of a session answers; `none` if there is no store to operate. -/
inductive SessionAnswer where
  | operated (answer : Option (Except StoreError StoreAnswer))
  | reopened (answer : Except StoreError Unit)

/-- The medium refused the step. -/
def SessionAnswer.IsRefusal : SessionAnswer → Prop
  | operated (some (.error failure)) | reopened (.error failure) => failure.IsRefusal
  | _ => False

namespace Session

variable {δ : Type} [Medium δ]

def step : SessionStep → Session δ → SessionAnswer × Session δ
  | .operate operation, session =>
      ((.operated (session.run operation.run).1), (session.run operation.run).2)
  | .reopen config, session =>
      ((.reopened (session.reopen config).1), (session.reopen config).2)

def runAll (steps : List SessionStep) (session : Session δ) :
    List SessionAnswer × Session δ :=
  match steps with
  | [] => ([], session)
  | first :: rest =>
      let (answer, session) := session.step first
      let (answers, session) := runAll rest session
      (answer :: answers, session)

end Session

/-- There is a store after another opening exactly if it succeeds. -/
theorem Session.reopen_cases {δ : Type} [Medium δ] (config : Config) (session : Session δ) :
    (∃ store, session.reopen config = (.ok (), .opened store)) ∨
      ∃ failure device, session.reopen config = (.error failure, .vacant device) := by
  rw [reopen, start]
  cases Medium.openStore config session.drop with
  | ok store => exact .inl ⟨store, rfl⟩
  | error reported => exact .inr ⟨reported.1, reported.2, rfl⟩

/-! ## Faithful media -/

/-- A medium that holds bytes as memory does, also from one store to the next. -/
class FaithfulMedium (δ : Type) [Medium δ] extends FaithfulDevice δ where
  opens : ∀ {config : Config} {device : δ}, Sound device → ∀ {store : Store δ},
    Medium.openStore config device = .ok store →
      Sound store.device ∧ contents store.device = contents device ∧
        Store.openDevice config (⟨contents device⟩ : Memory) =
          .ok (store.withDevice ⟨contents store.device⟩)
  reports : ∀ {config : Config} {device : δ}, Sound device →
    ∀ {failure : StoreError} {after : δ},
    Medium.openStore config device = .error (failure, after) →
      Sound after ∧ contents after = contents device ∧
        (failure.IsRefusal ∨
          Store.openDevice config (⟨contents device⟩ : Memory) =
            .error (failure, ⟨contents after⟩))

instance : FaithfulMedium Memory where
  opens := Store.openDevice_ok
  reports := Store.openDevice_error

instance {δ : Type} [Medium δ] [FaithfulDevice δ] : FaithfulMedium (Faulty δ) where
  opens := Store.openDevice_ok
  reports := Store.openDevice_error

instance {δ : Type} [Medium δ] [FaithfulDevice δ] : FaithfulMedium (Unbuffered δ) where
  opens := Store.openDevice_ok
  reports := Store.openDevice_error

variable {δ : Type} [Medium δ] [FaithfulMedium δ]

theorem Medium.openStore_memory (config : Config) (memory : Memory) :
    Medium.openStore config memory = Store.openDevice config memory :=
  rfl

/-! ## Dropping a store -/

namespace Store

/-- The bytes outlive the store, whether or not its last flush is refused. -/
theorem contents_dropped {store : Store δ} (sound : FaithfulDevice.Sound store.device) :
    FaithfulDevice.Sound store.dropped ∧
      FaithfulDevice.contents store.dropped = FaithfulDevice.contents store.device := by
  rcases store with ⟨device, index, config, stats, isOpen⟩
  cases isOpen with
  | false => exact ⟨sound, rfl⟩
  | true =>
      have kept := FaithfulDevice.contents_flush sound
      cases ran : ByteDevice.flush device with
      | ok value after =>
          rw [ran] at kept
          have afterSound := (FaithfulDevice.follows_flush.ok sound ran).1
          simp only [dropped, close, ran, if_true]
          exact ⟨FaithfulDevice.sound_release after afterSound,
            (FaithfulDevice.contents_release after).trans kept⟩
      | error failure after =>
          rw [ran] at kept
          have afterSound := (FaithfulDevice.follows_flush.error sound ran).1
          simp only [dropped, close, ran, if_true]
          exact ⟨FaithfulDevice.sound_release after afterSound,
            (FaithfulDevice.contents_release after).trans kept⟩

theorem dropped_memory (store : Store Memory) : store.dropped = store.device := by
  rcases store with ⟨device, index, config, stats, isOpen⟩
  cases isOpen <;> rfl

end Store

/-! ## Sessions in memory -/

namespace Session

/-- The session in memory that a session on a faithful medium stands for. -/
def inMemory : Session δ → Session Memory
  | opened store => opened store.inMemory
  | vacant device => vacant ⟨FaithfulDevice.contents device⟩

theorem device_inMemory (session : Session δ) :
    session.inMemory.device = ⟨FaithfulDevice.contents session.device⟩ := by
  cases session <;> rfl

theorem contents_drop {session : Session δ} (sound : FaithfulDevice.Sound session.device) :
    FaithfulDevice.Sound session.drop ∧
      FaithfulDevice.contents session.drop = FaithfulDevice.contents session.device := by
  cases session with
  | opened store => exact Store.contents_dropped sound
  | vacant device => exact ⟨sound, rfl⟩

theorem drop_memory (session : Session Memory) : session.drop = session.device := by
  cases session with
  | opened store => exact store.dropped_memory
  | vacant device => rfl

theorem start_inMemory {config : Config} {device : δ} (sound : FaithfulDevice.Sound device)
    (served : ∀ failure, (start config device).1 = .error failure → ¬failure.IsRefusal) :
    FaithfulDevice.Sound (start config device).2.device ∧
      start config (⟨FaithfulDevice.contents device⟩ : Memory) =
        ((start config device).1, (start config device).2.inMemory) := by
  rw [start] at served ⊢
  cases opened : Medium.openStore config device with
  | ok store =>
      rcases FaithfulMedium.opens sound opened with ⟨storeSound, _, memoryOpened⟩
      refine ⟨storeSound, ?_⟩
      rw [start, Medium.openStore_memory, memoryOpened]
      rfl
  | error reported =>
      rcases reported with ⟨failure, after⟩
      rw [opened] at served
      rcases FaithfulMedium.reports sound opened with ⟨afterSound, _, refused | memoryFailed⟩
      · exact absurd refused (served failure rfl)
      · refine ⟨afterSound, ?_⟩
        rw [start, Medium.openStore_memory, memoryFailed]
        rfl

/-- A step that is not refused is the step in memory. -/
theorem step_inMemory {session : Session δ} {step : SessionStep}
    (sound : FaithfulDevice.Sound session.device)
    (served : ¬(session.step step).1.IsRefusal) :
    FaithfulDevice.Sound (session.step step).2.device ∧
      session.inMemory.step step =
        ((session.step step).1, (session.step step).2.inMemory) := by
  cases step with
  | operate operation =>
      cases session with
      | vacant device => exact ⟨sound, rfl⟩
      | opened store =>
          cases ran : operation.run store with
          | ok answer after =>
              rcases operation.follows_run.ok sound ran with ⟨afterSound, memoryRan⟩
              simp only [Session.step, run, ran, inMemory]
              change operation.run store.inMemory = _ at memoryRan
              rw [memoryRan]
              exact ⟨afterSound, rfl⟩
          | error failure after =>
              simp only [Session.step, run, ran, inMemory] at served ⊢
              rcases operation.follows_run.error sound ran with ⟨afterSound, refused | memoryRan⟩
              · exact absurd refused served
              · change operation.run store.inMemory = _ at memoryRan
                rw [memoryRan]
                exact ⟨afterSound, rfl⟩
  | reopen config =>
      rcases contents_drop sound with ⟨dropSound, kept⟩
      have startServed : ∀ failure, (start config session.drop).1 = .error failure →
          ¬failure.IsRefusal := by
        intro failure failed refused
        apply served
        rw [Session.step, reopen, failed]
        exact refused
      rcases start_inMemory dropSound startServed with ⟨afterSound, started⟩
      refine ⟨afterSound, ?_⟩
      rw [Session.step, reopen, drop_memory, device_inMemory, ← kept, started]
      rfl

theorem runAll_inMemory {session : Session δ} {steps : List SessionStep}
    (sound : FaithfulDevice.Sound session.device)
    (served : ∀ answer ∈ (session.runAll steps).1, ¬answer.IsRefusal) :
    FaithfulDevice.Sound (session.runAll steps).2.device ∧
      session.inMemory.runAll steps =
        ((session.runAll steps).1, (session.runAll steps).2.inMemory) := by
  induction steps generalizing session with
  | nil => exact ⟨sound, rfl⟩
  | cons first rest induction =>
      rw [runAll] at served ⊢
      rcases List.forall_mem_cons.mp served with ⟨firstServed, restServed⟩
      rcases step_inMemory sound firstServed with ⟨middleSound, stepped⟩
      rcases induction middleSound restServed with ⟨afterSound, ran⟩
      refine ⟨afterSound, ?_⟩
      rw [runAll, stepped]
      simp only [ran]

end Session

end PackedRecords
