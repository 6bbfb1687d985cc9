import PackedRecords.Cache.Basic

/-! # Operations of an entity cache

The operations as values, so that histories of a cache can be run. A change is a
computation on an entry that also has a result of type `R`.
-/

namespace PackedRecords

/-- One operation of a cache of `V` over baselines `B`. -/
inductive CacheOperation (V B R : Type) where
  | activate (key : EntityId) (baseline : B)
  | deactivate (key : EntityId)
  | mutate (key : EntityId) (baseline : B) (change : Entry V → R × Entry V)
  | peek (key : EntityId) (baseline : B)
  | reconcileAll (baseline : B)
  | addHook

/-- What an operation of a cache answers. -/
inductive CacheAnswer (V R : Type) where
  | done
  | entry (entry : Entry V)
  | saved (dirty : Bool)
  | result (value : R)
  | peeked (value : Peeked V)
  | number (count : Nat)
deriving DecidableEq

namespace CacheOperation

variable {δ V B R : Type} [ByteDevice δ]

def run (codec : EntryCodec V B) :
    CacheOperation V B R → CacheM δ V (CacheAnswer V R)
  | activate key baseline => return .entry (← EntityCache.activate codec key baseline)
  | deactivate key => return .saved (← EntityCache.deactivate codec key)
  | mutate key baseline change =>
      return .result (← EntityCache.mutate codec key baseline change)
  | peek key baseline => return .peeked (← EntityCache.peek codec key baseline)
  | reconcileAll baseline => return .number (← EntityCache.reconcileAll codec baseline)
  | addHook => do
      EntityCache.addHook
      return .done

/-- An answer or a failure, and the cache afterwards. -/
def outcome (codec : EntryCodec V B) (operation : CacheOperation V B R)
    (cache : EntityCache δ V) : Except StoreError (CacheAnswer V R) × EntityCache δ V :=
  match operation.run codec cache with
  | .ok answer cache => (.ok answer, cache)
  | .error failure cache => (.error failure, cache)

/-- Runs operations one after another; a failure does not keep the next from being
tried. -/
def runAll (codec : EntryCodec V B) (operations : List (CacheOperation V B R))
    (cache : EntityCache δ V) :
    List (Except StoreError (CacheAnswer V R)) × EntityCache δ V :=
  match operations with
  | [] => ([], cache)
  | operation :: rest =>
      let (answer, cache) := operation.outcome codec cache
      let (answers, cache) := runAll codec rest cache
      (answer :: answers, cache)

end CacheOperation

end PackedRecords
