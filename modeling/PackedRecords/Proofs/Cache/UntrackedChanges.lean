import PackedRecords.Proofs.Cache.ShutdownSaves
import PackedRecords.Proofs.Cache.StorageAccess

/-! # What becomes of untracked changes

An entry is one value with one flag. If the flag is set when the entry is given up, the
whole value is stored, with every change that was made to it, tracked or not; if it is not
set, nothing is. So there are two ways to keep a value out of the store, from the time an
entry is loaded until it is given up: to make untracked changes only, or to make no change
that brings the value about. To bring a live entry in line sets its flag.
-/

namespace PackedRecords

variable {δ V B R : Type}

/-! ## Accesses to an entry -/

/-- One access to an entry by a computation that was given it. -/
inductive EntryAccess (V : Type) where
  | modify (change : V → V)
  | modifyUntracked (change : V → V)
  | markDirty
  | replace (entry : Entry V)

namespace EntryAccess

def apply : EntryAccess V → Entry V → Entry V
  | modify change, entry => entry.modify change
  | modifyUntracked change, entry => entry.modifyUntracked change
  | markDirty, entry => entry.markDirty
  | replace other, _ => other

def applyAll (accesses : List (EntryAccess V)) (entry : Entry V) : Entry V :=
  accesses.foldl (fun entry access => access.apply entry) entry

/-- Each of the accesses is permitted on the entry that it meets. -/
def AllPermitted (permitted : EntryAccess V → Entry V → Prop) :
    List (EntryAccess V) → Entry V → Prop
  | [], _ => True
  | access :: rest, entry =>
      permitted access entry ∧ AllPermitted permitted rest (access.apply entry)

/-- A value to be withheld comes about by untracked changes only, and an entry that has
one is not marked dirty. -/
def Untracked (withheld : V → Prop) (access : EntryAccess V) (entry : Entry V) : Prop :=
  match access with
  | modify change => withheld (change entry.value) → withheld entry.value
  | modifyUntracked _ => True
  | markDirty => ¬withheld entry.value
  | replace other => ¬withheld other.value

instance {withheld : V → Prop} [DecidablePred withheld] (access : EntryAccess V)
    (entry : Entry V) : Decidable (access.Untracked withheld entry) :=
  match access with
  | modify change =>
      inferInstanceAs (Decidable (withheld (change entry.value) → withheld entry.value))
  | modifyUntracked _ => .isTrue trivial
  | markDirty => inferInstanceAs (Decidable ¬withheld entry.value)
  | replace other => inferInstanceAs (Decidable ¬withheld other.value)

instance decidableAllPermitted (permitted : EntryAccess V → Entry V → Prop)
    [∀ access entry, Decidable (permitted access entry)] :
    ∀ accesses entry, Decidable (AllPermitted permitted accesses entry)
  | [], _ => .isTrue trivial
  | access :: rest, entry =>
      have := decidableAllPermitted permitted rest (access.apply entry)
      inferInstanceAs (Decidable (_ ∧ _))

end EntryAccess

/-! ## Ways to handle an entry -/

/-- What is done to an entry from the time it is loaded until it is given up. -/
inductive Handling where
  /-- Nothing but untracked changes. -/
  | untracked
  /-- Accesses of all kinds, none of which brings about a value to be withheld. -/
  | sparing
deriving DecidableEq

/-- The access fits the handling, whatever entry it meets. -/
def EntryAccess.Fits (withheld : V → Prop) : Handling → EntryAccess V → Prop
  | .untracked, modifyUntracked _ => True
  | .untracked, _ => False
  | .sparing, modify change | .sparing, modifyUntracked change =>
      ∀ value, withheld (change value) → withheld value
  | .sparing, markDirty => True
  | .sparing, replace entry => ¬withheld entry.value

namespace Handling

/-- Whatever entry it runs on, the change consists of accesses that fit the handling. -/
def Covers (withheld : V → Prop) (handling : Handling) (change : Entry V → R × Entry V) :
    Prop :=
  ∀ entry, ∃ accesses : List (EntryAccess V),
    (∀ access ∈ accesses, access.Fits withheld handling) ∧
      (change entry).2 = EntryAccess.applyAll accesses entry

/-- What holds of an entry as long as it is handled so. -/
def Keeps (withheld : V → Prop) : Handling → Entry V → Prop
  | untracked, entry => entry.dirty = false
  | sparing, entry => ¬withheld entry.value

variable {withheld : V → Prop} {handling : Handling} {entry : Entry V}

theorem Keeps.not_withheld (keeps : handling.Keeps withheld entry) (dirty : entry.dirty = true) :
    ¬withheld entry.value := by
  cases handling with
  | untracked =>
      have clean : entry.dirty = false := keeps
      rw [dirty] at clean
      cases clean
  | sparing => exact keeps

theorem Keeps.apply (keeps : handling.Keeps withheld entry) {access : EntryAccess V}
    (fits : access.Fits withheld handling) : handling.Keeps withheld (access.apply entry) := by
  cases handling with
  | untracked =>
      cases access with
      | modifyUntracked change => exact keeps
      | _ => exact fits.elim
  | sparing =>
      cases access with
      | modify change | modifyUntracked change => exact mt (fits entry.value) keeps
      | markDirty => exact keeps
      | replace other => exact fits

theorem Keeps.applyAll (keeps : handling.Keeps withheld entry) {accesses : List (EntryAccess V)}
    (fit : ∀ access ∈ accesses, access.Fits withheld handling) :
    handling.Keeps withheld (EntryAccess.applyAll accesses entry) := by
  induction accesses generalizing entry with
  | nil => exact keeps
  | cons access rest induction =>
      rcases List.forall_mem_cons.mp fit with ⟨first, later⟩
      exact induction (keeps.apply first) later

theorem Keeps.change (keeps : handling.Keeps withheld entry) {change : Entry V → R × Entry V}
    (covers : handling.Covers withheld change) : handling.Keeps withheld (change entry).2 := by
  rcases covers entry with ⟨accesses, fit, same⟩
  rw [same]
  exact keeps.applyAll fit

end Handling

/-! ## Operations on an entity -/

namespace CacheOperation

section Conditions

variable [ByteDevice δ] (codec : EntryCodec V B)

/-- A change of the entity consists of permitted accesses to the entry that it runs on. -/
def ChangesBy (permitted : EntryAccess V → Entry V → Prop) (key : EntityId)
    (operation : CacheOperation V B R) (cache : EntityCache δ V) : Prop :=
  match operation with
  | mutate target baseline change =>
      target = key → ∀ entry, cache.subject? codec key baseline = some entry →
        ∃ accesses, (change entry).2 = EntryAccess.applyAll accesses entry ∧
          EntryAccess.AllPermitted permitted accesses entry
  | _ => True

/-- Each operation of a run meets a condition on the cache that it finds. -/
def Along (condition : CacheOperation V B R → EntityCache δ V → Prop) :
    List (CacheOperation V B R) → EntityCache δ V → Prop
  | [], _ => True
  | operation :: rest, cache =>
      condition operation cache ∧ Along condition rest (operation.outcome codec cache).2

/-- The operation treats the entry of the entity as the handling says. Bringing the entry in
line, while the entity is active, is nothing that untracked changes do. -/
def Treats (withheld : V → Prop) (key : EntityId) (handling : Handling)
    (operation : CacheOperation V B R) (cache : EntityCache δ V) : Prop :=
  match operation with
  | mutate target _ change => target = key → handling.Covers withheld change
  | activate target _ => target = key → key ∈ cache.active → handling = .sparing
  | reconcileAll _ => key ∈ cache.active → handling = .sparing
  | deactivate _ | peek _ _ | addHook => True

/-- From the activation of the entity to the end of its activity all operations treat its
entry in one way. The way may be another one whenever the entity is not active. -/
def TreatsAlong (withheld : V → Prop) (key : EntityId) :
    Handling → List (CacheOperation V B R) → EntityCache δ V → Prop
  | _, [], _ => True
  | handling, operation :: rest, cache =>
      operation.Treats withheld key handling cache ∧ ∃ next,
        (key ∈ cache.active → key ∈ (operation.outcome codec cache).2.active →
          next = handling) ∧
        TreatsAlong withheld key next rest (operation.outcome codec cache).2

/-- If the operation reads the record of the entity, that does not tell of a value to be
withheld. -/
def ReadsNone (tells : ByteArray → Prop) (key : EntityId) (operation : CacheOperation V B R)
    (cache : EntityCache δ V) : Prop :=
  .get key ∈ operation.storeCalls codec cache →
    ∀ payload after, Store.get key cache.store = .ok (some payload) after → ¬tells payload

end Conditions

end CacheOperation

/-! ## Payloads to be stored -/

section Payloads

variable {codec : EntryCodec V B} {key target : EntityId} {payload : ByteArray}

theorem EntryCodec.put_mem_writeBackCalls {entry : Entry V} :
    .put key payload ∈ codec.writeBackCalls target entry ↔
      target = key ∧ entry.dirty = true ∧ codec.encode entry.value = .ok payload := by
  cases dirty : entry.dirty with
  | false =>
      rw [writeBackCalls_clean dirty]
      exact ⟨nofun, fun written => absurd written.2.1 Bool.false_ne_true⟩
  | true =>
      cases encoded : codec.encode entry.value with
      | error failure =>
          rw [writeBackCalls_unencodable dirty encoded]
          exact ⟨nofun, fun written => nomatch written.2.2⟩
      | ok stored =>
          rw [writeBackCalls_encoded dirty encoded, List.mem_singleton]
          constructor
          · intro same
            cases same
            exact ⟨rfl, rfl, rfl⟩
          · rintro ⟨rfl, _, same⟩
            cases same
            rfl

theorem EntryCodec.get_not_mem_writeBackCalls {entry : Entry V} :
    .get key ∉ codec.writeBackCalls target entry := by
  rw [writeBackCalls]
  cases entry.dirty with
  | false => exact List.not_mem_nil
  | true => cases codec.encode entry.value <;> simp

/-- Ending the activity of an entity reads nothing. -/
theorem CacheOperation.get_not_mem_deactivate [ByteDevice δ] (cache : EntityCache δ V) :
    .get key ∉ (deactivate target : CacheOperation V B R).storeCalls codec cache := by
  rw [storeCalls]
  cases cache.active[target]? with
  | none => exact List.not_mem_nil
  | some entry => exact EntryCodec.get_not_mem_writeBackCalls

/-- A payload is handed to the store for a key exactly if it is made of a dirty entry of
that key that is given up, and of its whole value. -/
theorem CacheOperation.put_mem_storeCalls [ByteDevice δ] {operation : CacheOperation V B R}
    {cache : EntityCache δ V} :
    .put key payload ∈ operation.storeCalls codec cache ↔
      operation.target? = some key ∧ ∃ entry, operation.givenUp? codec cache = some entry ∧
        entry.dirty = true ∧ codec.encode entry.value = .ok payload := by
  cases operation with
  | activate target baseline | peek target baseline =>
      rw [storeCalls, givenUp?]
      cases cache.active[target]? <;> simp
  | deactivate target =>
      rw [storeCalls, givenUp?, target?, Option.some.injEq]
      cases cache.active[target]? with
      | none => simp
      | some entry =>
          simp only [Option.some.injEq, exists_eq_left']
          exact EntryCodec.put_mem_writeBackCalls
  | mutate target baseline change =>
      rw [storeCalls, givenUp?, target?, Option.some.injEq]
      cases cache.active[target]? with
      | some entry => simp
      | none =>
          simp only [List.mem_cons, reduceCtorEq, false_or]
          cases EntityCache.load codec target baseline cache.store with
          | error failure store => simp
          | ok entry store =>
              simp only [Option.some.injEq, exists_eq_left']
              exact EntryCodec.put_mem_writeBackCalls
  | reconcileAll baseline | addHook => simp [storeCalls, givenUp?]

end Payloads

/-! ## What is withheld -/

/-- The payloads tell which values they are made of: those to be withheld, or others. -/
structure EntryCodec.Reveals (codec : EntryCodec V B) (withheld : V → Prop)
    (tells : ByteArray → Prop) : Prop where
  fresh : ∀ key baseline, ¬withheld (codec.fresh key baseline)
  decode : ∀ {key payload baseline value}, codec.decode key payload baseline = .ok value →
    withheld value → tells payload
  encode : ∀ {value payload}, codec.encode value = .ok payload →
    payload.size ≤ maxPayloadSize → tells payload → withheld value
  reconcile : ∀ key baseline value, withheld (codec.reconcile key baseline value) →
    withheld value

/-- The live entry of the entity, if it is active, is as the handling keeps it. -/
def EntityCache.Keeps (withheld : V → Prop) (key : EntityId) (handling : Handling)
    (cache : EntityCache δ V) : Prop :=
  ∀ entry, cache.active[key]? = some entry → handling.Keeps withheld entry

namespace CacheOperation

variable [ByteDevice δ] {codec : EntryCodec V B} {withheld : V → Prop}
  {tells : ByteArray → Prop} {key : EntityId} {handling next : Handling}
  {cache : EntityCache δ V} {operation : CacheOperation V B R}

omit [ByteDevice δ] in
theorem mem_active_of_live {entry : Entry V} (live : cache.active[key]? = some entry) :
    key ∈ cache.active :=
  Std.ExtTreeMap.mem_iff_isSome_getElem?.mpr (Option.isSome_of_eq_some live)

variable (reveals : codec.Reveals withheld tells)
include reveals

/-- What is loaded is clean and not to be withheld, and may be handled in any way. -/
theorem keeps_load (reads : operation.ReadsNone codec tells key cache)
    (calls : .get key ∈ operation.storeCalls codec cache) {baseline : B} {entry : Entry V}
    {after : Store δ} (ran : EntityCache.load codec key baseline cache.store = .ok entry after)
    (handling : Handling) : handling.Keeps withheld entry := by
  have both : entry.dirty = false ∧ ¬withheld entry.value := by
    cases looked : Store.get key cache.store with
    | error failure middle =>
        rw [EntityCache.load_of_get_error looked] at ran
        cases ran
    | ok found middle =>
        rw [EntityCache.load_of_get_ok looked] at ran
        cases made : codec.loaded key baseline found with
        | error failure =>
            rw [made] at ran
            cases ran
        | ok value =>
            rw [made] at ran
            cases ran
            refine ⟨rfl, ?_⟩
            cases found with
            | none =>
                cases made
                exact reveals.fresh key baseline
            | some payload => exact mt (reveals.decode made) (reads calls payload _ looked)
  cases handling with
  | untracked => exact both.1
  | sparing => exact both.2

/-- A live entry that is brought in line was to be spared, and still is. -/
theorem keeps_realigned {baseline : B} {entry : Entry V} (sparing : handling = .sparing)
    (before : handling.Keeps withheld entry) :
    handling.Keeps withheld (EntityCache.realigned codec key baseline entry) := by
  rw [sparing] at before ⊢
  exact mt (reveals.reconcile key baseline entry.value) before

theorem Treats.locally (treats : operation.Treats withheld key handling cache)
    (reads : operation.ReadsNone codec tells key cache)
    (before : cache.Keeps withheld key handling) (target : operation.target? = some key)
    (same : key ∈ cache.active → next = handling) {entry : Entry V}
    (left : (operation.locally codec cache.active[key]? cache.store).1 = some entry) :
    next.Keeps withheld entry := by
  cases live : cache.active[key]? with
  | some old =>
      have here := mem_active_of_live live
      rw [same here]
      rw [live] at left
      have kept := before old live
      cases operation with
      | activate own baseline =>
          cases target
          cases left
          exact keeps_realigned reveals (treats rfl here) kept
      | deactivate own =>
          cases target
          rw [CacheOperation.locally] at left
          -- An entry is still there only if it could not be saved, and then it is the same.
          cases written : EntityCache.writeBack codec key old cache.store <;>
            (rw [written] at left; cases left)
          exact kept
      | mutate own baseline change =>
          cases target
          cases left
          exact kept.change (treats rfl)
      | peek own baseline =>
          cases target
          cases left
          exact kept
      | reconcileAll baseline | addHook => cases target
  | none =>
      rw [live] at left
      cases operation with
      | activate own baseline =>
          cases target
          have calls : .get key ∈
              (activate key baseline : CacheOperation V B R).storeCalls codec cache := by
            rw [storeCalls, live]
            exact List.mem_singleton_self _
          rw [CacheOperation.locally] at left
          cases loaded : EntityCache.load codec key baseline cache.store <;>
            (rw [loaded] at left; cases left)
          exact keeps_load reveals reads calls loaded next
      | mutate own baseline change =>
          cases target
          rw [CacheOperation.locally] at left
          cases loaded : EntityCache.load codec key baseline cache.store <;>
            (rw [loaded] at left; cases left)
      | deactivate own | peek own baseline =>
          cases target
          cases left
      | reconcileAll baseline | addHook => cases target

theorem Treats.outcome (treats : operation.Treats withheld key handling cache)
    (reads : operation.ReadsNone codec tells key cache)
    (before : cache.Keeps withheld key handling)
    (same : key ∈ cache.active → key ∈ (operation.outcome codec cache).2.active →
      next = handling) :
    (operation.outcome codec cache).2.Keeps withheld key next := by
  intro entry found
  have goesOn : key ∈ cache.active → next = handling := fun here =>
    same here (mem_active_of_live found)
  cases target : operation.target? with
  | some own =>
      by_cases here : own = key
      · subst here
        rw [active_outcome_locally target] at found
        exact treats.locally reveals reads before target goesOn found
      · rw [active_outcome_of_ne target here] at found
        rw [goesOn (mem_active_of_live found)]
        exact before entry found
  | none =>
      cases operation with
      | reconcileAll baseline =>
          rw [active_outcome_reconcileAll, Option.map_eq_some_iff] at found
          rcases found with ⟨old, live, rfl⟩
          have here := mem_active_of_live live
          rw [goesOn here]
          exact keeps_realigned reveals (treats here) (before old live)
      | addHook =>
          have live : cache.active[key]? = some entry := found
          rw [goesOn (mem_active_of_live live)]
          exact before entry live
      | _ => cases target

theorem Treats.givenUp (treats : operation.Treats withheld key handling cache)
    (reads : operation.ReadsNone codec tells key cache)
    (before : cache.Keeps withheld key handling) (target : operation.target? = some key)
    {entry : Entry V} (given : operation.givenUp? codec cache = some entry) :
    handling.Keeps withheld entry := by
  cases operation with
  | deactivate own =>
      cases target
      exact before entry given
  | mutate own baseline change =>
      cases target
      rw [givenUp?] at given
      cases live : cache.active[key]? with
      | some old =>
          rw [live] at given
          cases given
      | none =>
          rw [live] at given
          cases loaded : EntityCache.load codec key baseline cache.store <;>
            (simp only [loaded] at given; cases given)
          have calls : .get key ∈ (mutate key baseline change).storeCalls codec cache := by
            rw [storeCalls_mutate_offline live loaded]
            exact List.mem_cons_self
          exact (keeps_load reveals reads calls loaded handling).change (treats rfl)
  | _ => cases given

/-- No payload that an operation hands to the store tells of a value to be withheld. -/
theorem Treats.unwritten (treats : operation.Treats withheld key handling cache)
    (reads : operation.ReadsNone codec tells key cache)
    (before : cache.Keeps withheld key handling) {payload : ByteArray}
    (short : payload.size ≤ maxPayloadSize)
    (member : .put key payload ∈ operation.storeCalls codec cache) : ¬tells payload := by
  rcases put_mem_storeCalls.mp member with ⟨target, entry, given, dirty, encoded⟩
  have spared := (treats.givenUp reveals reads before target given).not_withheld dirty
  exact mt (reveals.encode encoded short) spared

/-- No payload that a run hands to the store tells of a value to be withheld, and the live
entry is still handled in one of the two ways. -/
theorem unwritten_runAll {operations : List (CacheOperation V B R)}
    (treats : TreatsAlong codec withheld key handling operations cache)
    (reads : Along codec (ReadsNone codec tells key) operations cache)
    (before : cache.Keeps withheld key handling) :
    (∃ reached, (runAll codec operations cache).2.Keeps withheld key reached) ∧
      ∀ payload, payload.size ≤ maxPayloadSize →
        .put key payload ∈ storeCallsOf codec operations cache → ¬tells payload := by
  induction operations generalizing cache handling with
  | nil => exact ⟨⟨handling, before⟩, nofun⟩
  | cons operation rest induction =>
      rcases treats with ⟨first, next, same, later⟩
      rcases induction later reads.2 (first.outcome reveals reads.1 before same) with
        ⟨reached, unwritten⟩
      refine ⟨reached, fun payload short member => ?_⟩
      rcases List.mem_append.mp member with here | there
      · exact first.unwritten reveals reads.1 before short here
      · exact unwritten payload short there

/-- Ending activities reads nothing and does nothing to an entry. -/
theorem unwritten_shutdown (before : cache.Keeps withheld key handling) (keys : List EntityId)
    {payload : ByteArray} (short : payload.size ≤ maxPayloadSize)
    (member : .put key payload ∈ EntityCache.shutdownCalls codec keys cache) :
    ¬tells payload := by
  have ending (keys : List EntityId) (cache : EntityCache δ V) :
      TreatsAlong codec withheld key handling
          (keys.map EntityCache.ending : List (CacheOperation V B Unit)) cache ∧
        Along codec (ReadsNone codec tells key)
          (keys.map EntityCache.ending : List (CacheOperation V B Unit)) cache := by
    induction keys generalizing cache with
    | nil => exact ⟨trivial, trivial⟩
    | cons target rest induction =>
        rcases induction (EntityCache.ending target |>.outcome codec cache).2 with ⟨treats, reads⟩
        refine ⟨⟨trivial, handling, fun _ _ => rfl, treats⟩, fun calls => ?_, reads⟩
        exact absurd calls (get_not_mem_deactivate cache)
  rcases List.mem_append.mp member with running | closing
  · exact (unwritten_runAll reveals (ending keys cache).1 (ending keys cache).2 before).2
      payload short running
  · cases List.mem_singleton.mp closing

/-- On a device that is faithful and refuses nothing, no record that is read tells of a
value to be withheld if the first one does not. -/
theorem readsNone_along [FaithfulDevice δ] {ledger : Ledger} {config : Config}
    (backs : ledger.Backs config cache.store)
    (untold : ∀ payload, ledger.payload? key = some payload → ¬tells payload)
    {operations : List (CacheOperation V B R)}
    (treats : TreatsAlong codec withheld key handling operations cache)
    (served : StoreOperation.Spared StoreError.IsRefusal (storeCallsOf codec operations cache)
      cache.store)
    (before : cache.Keeps withheld key handling) :
    Along codec (ReadsNone codec tells key) operations cache := by
  induction operations generalizing cache handling ledger with
  | nil => trivial
  | cons operation rest induction =>
      rcases treats with ⟨first, next, same, later⟩
      rcases served.append with ⟨servedFirst, servedRest⟩
      rw [← makes_storeCalls operation cache] at servedRest
      have reads : operation.ReadsNone codec tells key cache := by
        intro _ payload after looked
        exact untold payload (backs.describes.get_ok backs.sound looked).1.symm
      refine ⟨reads, induction (backs_outcome backs operation servedFirst) ?_ later servedRest
        (first.outcome reveals reads before same)⟩
      intro payload found
      cases target : operation.target? with
      | none =>
          rw [storeCalls_untargeted target] at found
          exact untold payload found
      | some own =>
          have concerns : ∀ call ∈ operation.storeCalls codec cache, call.Concerns own :=
            concerns_storeCalls target cache
          by_cases here : own = key
          · subst here
            rcases Ledger.payload?_runAll_cases concerns backs.describes.recorded found with
              old | ⟨short, member⟩
            · exact untold payload old
            · exact first.unwritten reveals reads before
                (Nat.le_trans short (Config.payloadLimit_le config)) member
          · rw [Ledger.payload?_runAll_of_concerns here concerns] at found
            exact untold payload found

end CacheOperation

end PackedRecords
