import PackedRecords.Proofs.Store.Retained

/-! # Histories of a store

A history keeps, for each operation of a run, the stores before and after it and what it
answered. From the store before it can be told what an operation met: no record of its
key, a record as long as the new payload, or one of another length.
-/

namespace PackedRecords

/-- One operation of a run. -/
structure StoreTurn (δ : Type) where
  operation : StoreOperation
  before : Store δ
  answer : Except StoreError StoreAnswer
  after : Store δ

namespace StoreOperation

variable {δ : Type} [ByteDevice δ]

def turn (operation : StoreOperation) (store : Store δ) : StoreTurn δ :=
  ⟨operation, store, (operation.outcome store).1, (operation.outcome store).2⟩

def history : List StoreOperation → Store δ → List (StoreTurn δ)
  | [], _ => []
  | operation :: rest, store =>
      operation.turn store :: history rest (operation.outcome store).2

/-- The answers of a run stand in its history. -/
theorem map_answer_history (operations : List StoreOperation) (store : Store δ) :
    (history operations store).map StoreTurn.answer = (runAll operations store).1 := by
  induction operations generalizing store with
  | nil => rfl
  | cons operation rest induction =>
      rw [history, List.map_cons, induction, runAll]
      rfl

/-- What each turn of a history adds is in the end added up. -/
theorem counter_runAll {α : Type} [AddMonoid α] (counter : Stats → α)
    {amount : StoreTurn δ → α} {operations : List StoreOperation} {store : Store δ}
    (each : ∀ turn ∈ history operations store,
      counter turn.after.stats = counter turn.before.stats + amount turn) :
    counter (runAll operations store).2.stats =
      counter store.stats + ((history operations store).map amount).sum := by
  induction operations generalizing store with
  | nil => exact (add_zero _).symm
  | cons operation rest induction =>
      rw [history] at each ⊢
      rcases List.forall_mem_cons.mp each with ⟨here, later⟩
      have added : counter (operation.outcome store).2.stats =
          counter store.stats + amount (operation.turn store) := here
      rw [runAll, List.map_cons, List.sum_cons, ← add_assoc, ← added]
      exact induction later

end StoreOperation

theorem sum_map_toNat {α : Type} (holds : α → Bool) (values : List α) :
    (values.map fun value => (holds value).toNat).sum = values.countP holds := by
  induction values with
  | nil => rfl
  | cons value rest induction =>
      rw [List.map_cons, List.sum_cons, induction, List.countP_cons, Nat.add_comm]
      cases holds value <;> rfl

/-! ## What a turn did -/

section Faithful

variable {δ : Type} [ByteDevice δ] [FaithfulDevice δ]

/-- The size of the file less the end of the record that a key has. -/
def Store.bytesBehind (store : Store δ) (key : EntityId) : Int :=
  match store.index[key]?, store.lookUp key with
  | some offset, .ok (some payload) =>
      (FaithfulDevice.contents store.device).size - (offset + headerSize + payload.size : Nat)
  | _, _ => 0

namespace StoreTurn

variable (turn : StoreTurn δ)

def looksUp : Bool :=
  match turn.operation with
  | .get _ => true
  | _ => false

/-- The payload that a look-up has returned. -/
def returned? : Option ByteArray :=
  match turn.operation, turn.answer with
  | .get _, .ok (.payload found) => found
  | _, _ => none

/-- What a successful put has stored. -/
def stored? : Option (EntityId × ByteArray) :=
  match turn.operation, turn.answer with
  | .put key payload, .ok _ => some (key, payload)
  | _, _ => none

/-- The key whose record has been removed. -/
def removed? : Option EntityId :=
  match turn.operation, turn.answer with
  | .remove key, .ok (.flag true) => some key
  | _, _ => none

/-- A put met no record of its key. -/
def appends : Bool :=
  match turn.stored? with
  | some (key, _) => turn.before.lookUp key = .ok none
  | none => false

/-- A put met a record of its key for which something holds. -/
def meets (fits : ByteArray → ByteArray → Bool) : Bool :=
  match turn.stored? with
  | some (key, payload) =>
      match turn.before.lookUp key with
      | .ok (some old) => fits old payload
      | _ => false
  | none => false

def replacesInPlace : Bool :=
  turn.meets fun old payload => old.size = payload.size

def resizes : Bool :=
  turn.meets fun old payload => old.size ≠ payload.size

/-- How many bytes stood behind the record that was resized or removed. -/
def tail : Int :=
  match turn.stored?, turn.removed? with
  | some (key, _), _ => if turn.resizes then turn.before.bytesBehind key else 0
  | none, some key => turn.before.bytesBehind key
  | none, none => 0

/-- Neither a look-up nor a change of the records. -/
def IsQuiet : Prop :=
  turn.looksUp = false ∧ turn.stored? = none ∧ turn.removed? = none

/-- The counters have gone up by what the turn did, and by nothing else. A put that
succeeded did exactly one of three things. -/
structure Counted : Prop where
  lookups : turn.after.stats.lookups = turn.before.stats.lookups + turn.looksUp.toNat
  reads : turn.after.stats.reads = turn.before.stats.reads + turn.returned?.isSome.toNat
  bytesRead : turn.after.stats.bytesRead =
    turn.before.stats.bytesRead + (turn.returned?.elim 0 ByteArray.size)
  appends : turn.after.stats.appends = turn.before.stats.appends + turn.appends.toNat
  inPlaceUpdates : turn.after.stats.inPlaceUpdates =
    turn.before.stats.inPlaceUpdates + turn.replacesInPlace.toNat
  shiftedUpdates : turn.after.stats.shiftedUpdates =
    turn.before.stats.shiftedUpdates + turn.resizes.toNat
  stores : turn.appends.toNat + turn.replacesInPlace.toNat + turn.resizes.toNat =
    turn.stored?.isSome.toNat
  removes : turn.after.stats.removes = turn.before.stats.removes + turn.removed?.isSome.toNat
  bytesShifted : (turn.after.stats.bytesShifted : Int) =
    turn.before.stats.bytesShifted + turn.tail
  quiet : turn.IsQuiet → turn.after.stats = turn.before.stats

end StoreTurn

/-- The counters are the tallies of a history that began with a fresh store. -/
structure Stats.Tallies (stats : Stats) (history : List (StoreTurn δ)) : Prop where
  lookups : stats.lookups = history.countP StoreTurn.looksUp
  reads : stats.reads = history.countP fun turn => turn.returned?.isSome
  bytesRead : stats.bytesRead =
    (history.map fun turn => turn.returned?.elim 0 ByteArray.size).sum
  appends : stats.appends = history.countP StoreTurn.appends
  inPlaceUpdates : stats.inPlaceUpdates = history.countP StoreTurn.replacesInPlace
  shiftedUpdates : stats.shiftedUpdates = history.countP StoreTurn.resizes
  writes : stats.writes = history.countP fun turn => turn.stored?.isSome
  removes : stats.removes = history.countP fun turn => turn.removed?.isSome
  bytesShifted : (stats.bytesShifted : Int) = (history.map StoreTurn.tail).sum

open StoreOperation in
/-- Turns that are counted one by one are counted as a whole. -/
theorem Stats.tallies_of_counted {operations : List StoreOperation} {store : Store δ}
    (fresh : store.stats = {})
    (counted : ∀ turn ∈ history operations store, turn.Counted) :
    (runAll operations store).2.stats.Tallies (history operations store) := by
  have counts {counter : Stats → Nat} {holds : StoreTurn δ → Bool} (zero : counter {} = 0)
      (each : ∀ turn ∈ history operations store,
        counter turn.after.stats = counter turn.before.stats + (holds turn).toNat) :
      counter (runAll operations store).2.stats =
        (history operations store).countP holds := by
    rw [counter_runAll counter each, fresh, zero, Nat.zero_add, sum_map_toNat]
  exact {
    lookups := counts rfl fun turn member => (counted turn member).lookups
    reads := counts rfl fun turn member => (counted turn member).reads
    bytesRead := by
      rw [counter_runAll Stats.bytesRead fun turn member => (counted turn member).bytesRead,
        fresh]
      exact Nat.zero_add _
    appends := counts rfl fun turn member => (counted turn member).appends
    inPlaceUpdates := counts rfl fun turn member => (counted turn member).inPlaceUpdates
    shiftedUpdates := counts rfl fun turn member => (counted turn member).shiftedUpdates
    writes := counts rfl fun turn member => by
      have turnCounted := counted turn member
      rw [← turnCounted.stores, writes, writes, turnCounted.appends, turnCounted.inPlaceUpdates,
        turnCounted.shiftedUpdates]
      omega
    removes := counts rfl fun turn member => (counted turn member).removes
    bytesShifted := by
      rw [counter_runAll (fun stats => (stats.bytesShifted : Int))
        fun turn member => (counted turn member).bytesShifted, fresh]
      exact Int.zero_add _ }

end Faithful

end PackedRecords
