import PackedRecords.Cache.Codec
import PackedRecords.Cache.Entry
import PackedRecords.Store.Medium

/-! # Entity caches

A cache holds the values of active entities over a store. An entity's record is read
when it becomes active and written, if its entry is dirty, when it ceases to be. A
value can also be changed offline: it is loaded, changed and written back at once
without becoming active.

Activating an active entity brings its value in line with a baseline instead; so does
`reconcileAll` for every active entity. Both tell the registered hooks.
-/

namespace PackedRecords

/-- A call of hook number `hook`: the value of an entity was brought in line. -/
structure Rebuild (V : Type) where
  key : EntityId
  hook : Nat
  value : V
deriving DecidableEq

abbrev ActiveMap (V : Type) := Std.ExtTreeMap EntityId (Entry V) compare

/-- A cache over a store on a device `δ`. Hooks are numbered in the order they were
registered, and `rebuilds` holds their calls so far. -/
structure EntityCache (δ V : Type) where
  store : Store δ
  active : ActiveMap V
  hooks : Nat
  rebuilds : List (Rebuild V)

/-- A computation on a cache that can fail; the cache survives a failure. -/
abbrev CacheM (δ V : Type) := EStateM StoreError (EntityCache δ V)

/-- A loaded or computed value, or the reason there is none. -/
def Store.attempt {δ α : Type} : Except StoreError α → StoreM δ α
  | .ok value => pure value
  | .error failure => throw failure

namespace EntityCache

variable {δ V B R : Type}

/-- A cache without active entities. -/
def ofStore (store : Store δ) : EntityCache δ V :=
  ⟨store, ∅, 0, []⟩

def onStore {α : Type} (action : StoreM δ α) : CacheM δ V α :=
  fun ⟨store, active, hooks, rebuilds⟩ =>
    match action store with
    | .ok value store => .ok value ⟨store, active, hooks, rebuilds⟩
    | .error failure store => .error failure ⟨store, active, hooks, rebuilds⟩

def entry? (key : EntityId) : CacheM δ V (Option (Entry V)) := fun cache =>
  .ok cache.active[key]? cache

def isActive (cache : EntityCache δ V) (key : EntityId) : Bool :=
  cache.active.contains key

def activeCount (cache : EntityCache δ V) : Nat :=
  cache.active.size

/-- The keys of the active entities, in their order. -/
def activeKeys (cache : EntityCache δ V) : List EntityId :=
  cache.active.keys

def keep (key : EntityId) (entry : Entry V) : CacheM δ V Unit := fun cache =>
  .ok () { cache with active := cache.active.insert key entry }

def giveUp (key : EntityId) : CacheM δ V Unit := fun cache =>
  .ok () { cache with active := cache.active.erase key }

def rebuildsOf (hooks : Nat) (key : EntityId) (value : V) : List (Rebuild V) :=
  (List.range hooks).map fun hook => ⟨key, hook, value⟩

def tellHooks (key : EntityId) (value : V) : CacheM δ V Unit := fun cache =>
  .ok () { cache with
    rebuilds := cache.rebuilds ++ rebuildsOf cache.hooks key value }

def addHook : CacheM δ V Unit := fun cache =>
  .ok () { cache with hooks := cache.hooks + 1 }

variable (codec : EntryCodec V B)

/-- An active entry brought in line with a baseline; it may differ from its record
from then on. -/
def realigned (key : EntityId) (baseline : B) (entry : Entry V) : Entry V :=
  (entry.modifyUntracked (codec.reconcile key baseline)).markDirty

variable [ByteDevice δ]

/-- A clean entry made from an entity's record, or from the baseline if there is none. -/
def load (key : EntityId) (baseline : B) : StoreM δ (Entry V) := do
  match ← Store.get key with
  | none => return .clean (codec.fresh key baseline)
  | some payload => return .clean (← Store.attempt (codec.decode key payload baseline))

def save (key : EntityId) (entry : Entry V) : StoreM δ Unit := do
  let payload ← Store.attempt (codec.encode entry.value)
  Store.put key payload

/-- Saves an entry, which is clean afterwards. -/
def persist (key : EntityId) (entry : Entry V) : StoreM δ (Entry V) := do
  save codec key entry
  return entry.markClean

/-- Makes an entity active, or brings it in line with the baseline if it is. -/
def activate (key : EntityId) (baseline : B) : CacheM δ V (Entry V) := do
  match ← entry? key with
  | some entry =>
      let entry := realigned codec key baseline entry
      keep key entry
      tellHooks key entry.value
      return entry
  | none =>
      let entry ← onStore (load codec key baseline)
      keep key entry
      return entry

/-- Ends an entity's activity, saving its entry first if it is dirty, and returns
whether it was saved. An entry that cannot be saved stays active and dirty. -/
def deactivate (key : EntityId) : CacheM δ V Bool := do
  match ← entry? key with
  | none => return false
  | some entry =>
      if entry.dirty then
        keep key (← onStore (persist codec key entry))
      giveUp key
      return entry.dirty

/-- Runs a computation on the entry of an active entity, or offline on an entry that
is loaded and, if the computation leaves it dirty, saved. -/
def mutate (key : EntityId) (baseline : B) (change : Entry V → R × Entry V) :
    CacheM δ V R := do
  match ← entry? key with
  | some entry =>
      let (result, entry) := change entry
      keep key entry
      return result
  | none =>
      let entry ← onStore (load codec key baseline)
      let (result, entry) := change entry
      if entry.dirty then
        let _ ← onStore (persist codec key entry)
      return result

/-- The value of an entity, active or not. -/
def peek (key : EntityId) (baseline : B) : CacheM δ V (Peeked V) := do
  match ← entry? key with
  | some entry => return .active entry.value
  | none => return .transient (← onStore (load codec key baseline)).value

/-- Brings an active entity in line with a baseline and tells the hooks. -/
def realign (baseline : B) (cache : EntityCache δ V) (key : EntityId) : EntityCache δ V :=
  match cache.active[key]? with
  | none => cache
  | some entry =>
      let entry := realigned codec key baseline entry
      { cache with
        active := cache.active.insert key entry
        rebuilds := cache.rebuilds ++ rebuildsOf cache.hooks key entry.value }

/-- Brings entities in line with a baseline, visiting them in the given order, and
returns the number of active entities. -/
def reconcileAllIn (keys : List EntityId) (baseline : B) : CacheM δ V Nat := fun cache =>
  let cache := keys.foldl (realign codec baseline) cache
  .ok cache.activeCount cache

/-- Brings every active entity in line with a baseline, and returns their number. -/
def reconcileAll (baseline : B) : CacheM δ V Nat := fun cache =>
  reconcileAllIn codec cache.activeKeys baseline cache

/-- Ends the activity of entities in the given order, whether or not saving one of
them fails, and returns the first failure. -/
def deactivateEach (keys : List EntityId) (cache : EntityCache δ V) :
    Option StoreError × EntityCache δ V :=
  keys.foldl (fun (failed, cache) key =>
    match deactivate codec key cache with
    | .ok _ cache => (failed, cache)
    | .error failure cache => (failed <|> some failure, cache)) (none, cache)

/-- Ends the activity of all entities, visiting them in the given order, and closes the
store. Everything is attempted; the first failure is returned. -/
def shutdownIn (keys : List EntityId) (cache : EntityCache δ V) :
    Except StoreError Unit × Store δ :=
  let (failed, cache) := deactivateEach codec keys cache
  match failed, Store.close cache.store with
  | some failure, .ok _ store | some failure, .error _ store => (.error failure, store)
  | none, .ok _ store => (.ok (), store)
  | none, .error failure store => (.error failure, store)

def shutdown (cache : EntityCache δ V) : Except StoreError Unit × Store δ :=
  shutdownIn codec cache.activeKeys cache

end EntityCache

def EntityCache.debugText {δ V : Type} [Medium δ] (cache : EntityCache δ V) : String :=
  fieldsText "EntityCache" [("store", cache.store.debugText),
    ("active", toString cache.active.size), ("rebuild_hooks", toString cache.hooks)]

end PackedRecords
