import PackedRecords.Proofs.Cache.Steps
import PackedRecords.Proofs.Cache.StoredPart

/-! # Caches are transparent

The part of an entity's value that is stored is carried by the cache as a whole: by the
live entry while the entity is active and dirty, by its record otherwise. Changes reach
it in their order, wherever it is at the time, and nothing else does.
-/

namespace PackedRecords

variable {δ V B R K : Type}

/-! ## Changes -/

/-- The computation leaves an entry alone or leaves it dirty. -/
def Entry.Tracks (change : Entry V → R × Entry V) : Prop :=
  ∀ entry, (change entry).2 = entry ∨ (change entry).2.dirty = true

namespace CacheOperation

/-- Changes of entries are tracked by their flags. -/
def Tracked : CacheOperation V B R → Prop
  | mutate _ _ change => Entry.Tracks change
  | _ => True

/-- The computation that an operation runs on the entry of a key, if it does so. -/
def changeOn? (key : EntityId) : CacheOperation V B R → Option (Entry V → R × Entry V)
  | mutate target _ change => if target = key then some change else none
  | _ => none

/-- The computations that operations run on the entry of a key, in order. -/
def changesOn (key : EntityId) (operations : List (CacheOperation V B R)) :
    List (Entry V → R × Entry V) :=
  operations.filterMap (changeOn? key)

end CacheOperation

namespace StoredPart

variable {codec : EntryCodec V B} (stored : StoredPart codec K)

/-- What a computation on an entry makes of its stored part, whatever that part is. -/
def effect (change : Entry V → R × Entry V) (entry : Entry V) (content : K) : K :=
  stored.part (change ⟨stored.replace content entry.value, entry.dirty⟩).2.value

theorem effect_part (change : Entry V → R × Entry V) (entry : Entry V) :
    stored.effect change entry (stored.part entry.value) =
      stored.part (change entry).2.value := by
  rw [effect, stored.replace_part]

variable [ByteDevice δ]

/-- What an operation does to the stored part of a key, as a list of at most one effect. -/
def effectsOf (key : EntityId) (operation : CacheOperation V B R)
    (cache : EntityCache δ V) : List (K → K) :=
  match operation with
  | .mutate target baseline change =>
      if target = key then
        match cache.subject? codec key baseline with
        | some entry => [stored.effect change entry]
        | none => []
      else []
  | _ => []

/-- What a run does to the stored part of a key, in order. -/
def effects (key : EntityId) (operations : List (CacheOperation V B R))
    (cache : EntityCache δ V) : List (K → K) :=
  match operations with
  | [] => []
  | operation :: rest =>
      stored.effectsOf key operation cache ++
        effects key rest (operation.outcome codec cache).2

/-- The stored parts once the effects of a run have been applied in their order. -/
def contentsAfter (operations : List (CacheOperation V B R)) (cache : EntityCache δ V)
    (contents : EntityId → K) (key : EntityId) : K :=
  (stored.effects key operations cache).foldl (fun content effect => effect content)
    (contents key)

section Acting

variable {key : EntityId} {act : (Entry V → R × Entry V) → K → K} {cache : EntityCache δ V}

theorem effectsOf_eq {operation : CacheOperation V B R} {answer : CacheAnswer V R}
    {after : EntityCache δ V} (ran : operation.run codec cache = .ok answer after)
    (acts : ∀ change, CacheOperation.changeOn? key operation = some change → ∀ entry,
      stored.part (change entry).2.value = act change (stored.part entry.value)) :
    stored.effectsOf key operation cache =
      (CacheOperation.changeOn? key operation).toList.map act := by
  cases operation with
  | mutate target baseline change =>
      rcases exists_of_bind_ok ran with ⟨result, final, mutated, _⟩
      rcases EntityCache.exists_subject_of_mutate mutated with ⟨subject, found⟩
      by_cases here : target = key
      · have actsHere := acts change (if_pos here)
        rw [← here]
        simp only [effectsOf, CacheOperation.changeOn?, if_true, found, Option.toList_some,
          List.map_cons, List.map_nil, List.cons.injEq, and_true]
        funext content
        rw [effect, actsHere, stored.part_replace]
      · simp only [effectsOf, CacheOperation.changeOn?, if_neg here, Option.toList_none,
          List.map_nil]
  | _ => rfl

/-- Computations that do the same to the stored part wherever they find it have effects
that do not depend on the rest of the run. -/
theorem effects_eq {operations : List (CacheOperation V B R)}
    (served : ∀ failure, .error failure ∉ (CacheOperation.runAll codec operations cache).1)
    (acts : ∀ change ∈ CacheOperation.changesOn key operations, ∀ entry,
      stored.part (change entry).2.value = act change (stored.part entry.value)) :
    stored.effects key operations cache =
      (CacheOperation.changesOn key operations).map act := by
  induction operations generalizing cache with
  | nil => rfl
  | cons operation rest induction =>
      have split : CacheOperation.changesOn key (operation :: rest) =
          (CacheOperation.changeOn? key operation).toList ++
            CacheOperation.changesOn key rest := by
        rw [CacheOperation.changesOn, List.filterMap_cons]
        cases CacheOperation.changeOn? key operation <;> rfl
      rw [split] at acts
      rcases EntityCache.exists_of_served served with ⟨⟨answer, ran⟩, servedRest⟩
      have first := stored.effectsOf_eq ran fun change found =>
        acts change (List.mem_append_left _ (Option.mem_toList.mpr found))
      have later := induction servedRest fun change member =>
        acts change (List.mem_append_right _ member)
      rw [effects, first, later, split, List.map_append]

theorem contentsAfter_eq {operations : List (CacheOperation V B R)}
    (served : ∀ failure, .error failure ∉ (CacheOperation.runAll codec operations cache).1)
    (acts : ∀ change ∈ CacheOperation.changesOn key operations, ∀ entry,
      stored.part (change entry).2.value = act change (stored.part entry.value))
    (contents : EntityId → K) :
    stored.contentsAfter operations cache contents key =
      (CacheOperation.changesOn key operations).foldl
        (fun content change => act change content) (contents key) := by
  rw [contentsAfter, stored.effects_eq served acts, List.foldl_map]

end Acting

/-- Looking at any key shows its content, unless the device refuses to be read. -/
def Shows (contents : EntityId → K) (cache : EntityCache δ V) : Prop :=
  ∀ key baseline,
    match EntityCache.peek codec key baseline cache with
    | .ok peeked _ => stored.part peeked.value = contents key
    | .error failure _ => failure.IsRefusal

/-! ## Carrying -/

variable [FaithfulDevice δ]

/-- The store and the active entries together carry the contents: every live entry has
its content, and where there is no dirty one the record has it. -/
structure Carries (ledger : Ledger) (contents : EntityId → K) (store : Store δ)
    (active : ActiveMap V) : Prop where
  sound : FaithfulDevice.Sound store.device
  describes : ledger.Describes store
  live : ∀ {key entry}, active[key]? = some entry → stored.part entry.value = contents key
  saved : ∀ key, stored.Holds (contents key) (ledger.payload? key) ∨
    ∃ entry, active[key]? = some entry ∧ entry.dirty = true

namespace Carries

variable {stored} {ledger : Ledger} {contents next : EntityId → K} {store final : Store δ}
  {active : ActiveMap V} {key : EntityId} {baseline : B} {entry : Entry V}

theorem holds_of_inactive (carries : stored.Carries ledger contents store active)
    (inactive : active[key]? = none) :
    stored.Holds (contents key) (ledger.payload? key) := by
  rcases carries.saved key with holds | ⟨entry, found, _⟩
  · exact holds
  · rw [inactive] at found
    cases found

theorem holds_of_clean (carries : stored.Carries ledger contents store active)
    (found : active[key]? = some entry) (clean : entry.dirty = false) :
    stored.Holds (contents key) (ledger.payload? key) := by
  rcases carries.saved key with holds | ⟨other, same, dirty⟩
  · exact holds
  · rw [found] at same
    cases same
    rw [clean] at dirty
    cases dirty

theorem load_ok (carries : stored.Carries ledger contents store active)
    (inactive : active[key]? = none)
    (ran : EntityCache.load codec key baseline store = .ok entry final) :
    stored.part entry.value = contents key ∧ entry.dirty = false ∧
      stored.Carries ledger contents final active ∧ final.config = store.config := by
  rcases StoredPart.load_ok carries.describes carries.sound (carries.holds_of_inactive inactive)
      ran with ⟨part, clean, describes, sound, sameConfig⟩
  exact ⟨part, clean, ⟨sound, describes, carries.live, carries.saved⟩, sameConfig⟩

/-- An entry with the new content of its key becomes live. -/
theorem insert (carries : stored.Carries ledger contents store active)
    (others : ∀ other, key ≠ other → next other = contents other)
    (part : stored.part entry.value = next key)
    (kept : stored.Holds (next key) (ledger.payload? key) ∨ entry.dirty = true) :
    stored.Carries ledger next store (active.insert key entry) where
  sound := carries.sound
  describes := carries.describes
  live {other found} same := by
    rw [Std.ExtTreeMap.getElem?_insert] at same
    simp only [Std.LawfulEqCmp.compare_eq_iff_eq] at same
    by_cases here : key = other
    · rw [if_pos here] at same
      cases same
      rw [part, here]
    · rw [if_neg here] at same
      rw [others other here]
      exact carries.live same
  saved other := by
    rw [Std.ExtTreeMap.getElem?_insert]
    simp only [Std.LawfulEqCmp.compare_eq_iff_eq]
    by_cases here : key = other
    · rw [← here, if_pos rfl]
      exact kept.imp id fun dirty => ⟨entry, rfl, dirty⟩
    · rw [if_neg here, others other here]
      exact carries.saved other

/-- An entry that its record agrees with ceases to be live. -/
theorem erase (carries : stored.Carries ledger contents store active)
    (holds : stored.Holds (contents key) (ledger.payload? key)) :
    stored.Carries ledger contents store (active.erase key) where
  sound := carries.sound
  describes := carries.describes
  live {other found} same := by
    rw [Std.ExtTreeMap.getElem?_erase] at same
    split at same
    · cases same
    · exact carries.live same
  saved other := by
    rw [Std.ExtTreeMap.getElem?_erase]
    simp only [Std.LawfulEqCmp.compare_eq_iff_eq]
    by_cases here : key = other
    · rw [← here]
      exact .inl holds
    · rw [if_neg here]
      exact carries.saved other

/-- An entry with the new content of its key is written. -/
theorem save_ok (carries : stored.Carries ledger contents store active)
    (others : ∀ other, key ≠ other → next other = contents other)
    (part : stored.part entry.value = next key)
    (agrees : ∀ found, active[key]? = some found → stored.part found.value = next key)
    (ran : EntityCache.save codec key entry store = .ok () final) :
    ∃ payload, stored.Carries (ledger.put key payload) next final active ∧
      stored.Holds (next key) ((ledger.put key payload).payload? key) ∧
      final.config = store.config := by
  rcases StoredPart.save_ok carries.describes carries.sound ran with
    ⟨payload, encoded, describes, sound, sameConfig⟩
  have payloads (other : EntityId) := Ledger.payload?_put carries.describes.recorded key other
    payload
  have holds : stored.Holds (next key) ((ledger.put key payload).payload? key) := by
    rw [payloads, if_pos rfl]
    exact ⟨entry.value, encoded, part⟩
  refine ⟨payload, ⟨sound, describes, ?_, ?_⟩, holds, sameConfig⟩
  · intro other found same
    by_cases here : key = other
    · rw [← here] at same ⊢
      exact agrees found same
    · rw [others other here]
      exact carries.live same
  · intro other
    by_cases here : key = other
    · rw [← here]
      exact .inl holds
    · rw [payloads, if_neg here, others other here]
      exact carries.saved other

/-- An entry with the new content of its key is written if it is dirty. If it is not, the
content is not new. -/
theorem written (carries : stored.Carries ledger contents store active)
    (others : ∀ other, key ≠ other → next other = contents other)
    (part : stored.part entry.value = next key)
    (agrees : ∀ found, active[key]? = some found → stored.part found.value = next key)
    (clean : entry.dirty = false → next key = contents key ∧
      stored.Holds (contents key) (ledger.payload? key))
    (ran : EntityCache.Written codec key entry store final) :
    ∃ left, (ledger.AllLive → left.AllLive) ∧ stored.Carries left next final active ∧
      stored.Holds (next key) (left.payload? key) ∧ final.config = store.config := by
  rcases ran with ⟨notDirty, same⟩ | ⟨_, saved⟩
  · rcases clean notDirty with ⟨sameContent, holds⟩
    have sameContents : next = contents := by
      funext other
      by_cases here : key = other
      · rw [← here, sameContent]
      · exact others other here
    subst same
    rw [sameContents]
    exact ⟨ledger, id, carries, holds, rfl⟩
  · rcases carries.save_ok others part agrees saved with ⟨payload, left, holds, sameConfig⟩
    exact ⟨_, fun allLive => allLive.put key payload, left, holds, sameConfig⟩

/-- The cache shows what it carries. -/
theorem shows {cache : EntityCache δ V}
    (carries : stored.Carries ledger contents cache.store cache.active) :
    stored.Shows contents cache := by
  intro key baseline
  cases ran : EntityCache.peek codec key baseline cache with
  | ok peeked after =>
      rcases EntityCache.peek_ok ran with
        ⟨_, ⟨entry, found, same, _⟩ | ⟨inactive, entry, same, loaded⟩⟩
      · simp only [same]
        exact carries.live found
      · simp only [same]
        exact (carries.load_ok inactive loaded).1
  | error failure after =>
      rcases EntityCache.peek_error ran with ⟨inactive, store, failed⟩
      exact StoredPart.load_error carries.describes carries.sound
        (carries.holds_of_inactive inactive) failed

/-! ## Operations -/

variable {cache after : EntityCache δ V}
  (carries : stored.Carries ledger contents cache.store cache.active)
include carries

theorem activate_ok (ran : EntityCache.activate codec key baseline cache = .ok entry after) :
    stored.Carries ledger contents after.store after.active ∧
      after.store.config = cache.store.config := by
  rcases EntityCache.activate_ok ran with ⟨active, ⟨old, found, same, store⟩ | ⟨inactive, loaded⟩⟩
  · have part : stored.part entry.value = contents key := by
      rw [same]
      exact (stored.part_reconcile key baseline old.value).trans (carries.live found)
    have dirty : entry.dirty = true := by
      rw [same]
      rfl
    rw [active, store]
    exact ⟨carries.insert (fun _ _ => rfl) part (.inr dirty), rfl⟩
  · rcases carries.load_ok inactive loaded with ⟨part, _, middle, sameConfig⟩
    rw [active]
    exact ⟨middle.insert (fun _ _ => rfl) part (.inl (carries.holds_of_inactive inactive)),
      sameConfig⟩

theorem deactivate_ok {written : Bool}
    (ran : EntityCache.deactivate codec key cache = .ok written after) :
    ∃ left, (ledger.AllLive → left.AllLive) ∧
      stored.Carries left contents after.store after.active ∧
      after.store.config = cache.store.config := by
  rcases EntityCache.deactivate_ok ran with ⟨_, same⟩ | ⟨entry, found, saved, active⟩
  · rw [same]
    exact ⟨ledger, id, carries, rfl⟩
  · rcases carries.written (fun _ _ => rfl) (carries.live found) (fun _ => carries.live)
        (fun clean => ⟨rfl, carries.holds_of_clean found clean⟩) saved with
      ⟨left, allLive, middle, holds, sameConfig⟩
    rw [active]
    exact ⟨left, allLive, middle.erase holds, sameConfig⟩

theorem mutate_ok {change : Entry V → R × Entry V} (tracks : Entry.Tracks change)
    {result : R} (ran : EntityCache.mutate codec key baseline change cache = .ok result after) :
    ∃ subject, cache.subject? codec key baseline = some subject ∧
      stored.part subject.value = contents key ∧
      ∀ next : EntityId → K, (∀ other, key ≠ other → next other = contents other) →
        next key = stored.part (change subject).2.value →
        ∃ left, (ledger.AllLive → left.AllLive) ∧
          stored.Carries left next after.store after.active ∧
          after.store.config = cache.store.config := by
  rcases EntityCache.mutate_ok ran with
    ⟨entry, found, store, active⟩ | ⟨inactive, active, entry, middle, loaded, written⟩
  · refine ⟨entry, EntityCache.subject?_of_live found, carries.live found, ?_⟩
    intro next others here
    have kept : stored.Holds (next key) (ledger.payload? key) ∨
        (change entry).2.dirty = true := by
      rcases tracks entry with unchanged | dirty
      · rw [here, unchanged, carries.live found]
        rcases carries.saved key with holds | ⟨other, same, dirty⟩
        · exact .inl holds
        · rw [found] at same
          cases same
          exact .inr dirty
      · exact .inr dirty
    rw [store, active]
    exact ⟨ledger, id, carries.insert others here.symm kept, rfl⟩
  · rcases carries.load_ok inactive loaded with ⟨part, clean, middleCarries, middleConfig⟩
    refine ⟨entry, EntityCache.subject?_of_loaded inactive loaded, part, ?_⟩
    intro next others here
    have untouched : (change entry).2.dirty = false → next key = contents key ∧
        stored.Holds (contents key) (ledger.payload? key) := by
      intro notDirty
      rcases tracks entry with unchanged | dirty
      · rw [here, unchanged, part]
        exact ⟨rfl, carries.holds_of_inactive inactive⟩
      · rw [notDirty] at dirty
        cases dirty
    have noLive : ∀ found, cache.active[key]? = some found →
        stored.part found.value = next key := by
      intro found live
      rw [inactive] at live
      cases live
    rcases middleCarries.written others here.symm noLive untouched written with
      ⟨left, allLive, final, _, sameConfig⟩
    rw [active]
    exact ⟨left, allLive, final, sameConfig.trans middleConfig⟩

theorem peek_ok {peeked : Peeked V}
    (ran : EntityCache.peek codec key baseline cache = .ok peeked after) :
    stored.Carries ledger contents after.store after.active ∧
      after.store.config = cache.store.config := by
  rcases EntityCache.peek_ok ran with
    ⟨active, ⟨entry, _, _, store⟩ | ⟨inactive, entry, _, loaded⟩⟩
  · rw [active, store]
    exact ⟨carries, rfl⟩
  · rw [active]
    exact (carries.load_ok inactive loaded).2.2

theorem realigned : stored.Carries ledger contents cache.store
    (cache.active.map fun key entry => EntityCache.realigned codec key baseline entry) where
  sound := carries.sound
  describes := carries.describes
  live {key entry} found := by
    rw [Std.ExtTreeMap.getElem?_map, Option.map_eq_some_iff] at found
    rcases found with ⟨old, live, same⟩
    rw [← same]
    exact (stored.part_reconcile key baseline old.value).trans (carries.live live)
  saved key := by
    rw [Std.ExtTreeMap.getElem?_map]
    rcases carries.saved key with holds | ⟨old, live, _⟩
    · exact .inl holds
    · rw [live]
      exact .inr ⟨_, rfl, rfl⟩

/-- One operation that succeeds leaves the contents as they are, apart from its effect. -/
theorem step {operation : CacheOperation V B R} (tracked : operation.Tracked)
    {answer : CacheAnswer V R} (ran : operation.run codec cache = .ok answer after) :
    ∃ left, (ledger.AllLive → left.AllLive) ∧
      stored.Carries left (fun key => (stored.effectsOf key operation cache).foldl
        (fun content effect => effect content) (contents key)) after.store after.active ∧
      after.store.config = cache.store.config := by
  cases operation with
  | activate key baseline =>
      rcases exists_of_bind_ok ran with ⟨entry, final, activated, answered⟩
      cases answered
      exact ⟨ledger, id, carries.activate_ok activated⟩
  | deactivate key =>
      rcases exists_of_bind_ok ran with ⟨written, final, deactivated, answered⟩
      cases answered
      exact carries.deactivate_ok deactivated
  | mutate target baseline change =>
      rcases exists_of_bind_ok ran with ⟨result, final, mutated, answered⟩
      cases answered
      rcases carries.mutate_ok tracked mutated with ⟨subject, found, part, reaches⟩
      apply reaches
      · intro other different
        simp only [effectsOf, if_neg different, List.foldl_nil]
      · simp only [effectsOf, if_true, found, List.foldl_cons, List.foldl_nil]
        rw [← part, effect_part]
  | peek key baseline =>
      rcases exists_of_bind_ok ran with ⟨peeked, final, looked, answered⟩
      cases answered
      exact ⟨ledger, id, carries.peek_ok looked⟩
  | reconcileAll baseline =>
      rcases exists_of_bind_ok ran with ⟨count, final, aligned, answered⟩
      rw [EntityCache.reconcileAll_run] at aligned
      cases aligned
      cases answered
      exact ⟨ledger, id, carries.realigned, rfl⟩
  | addHook =>
      cases ran
      exact ⟨ledger, id, carries, rfl⟩

/-! ## Runs -/

/-- A run in which everything succeeds leaves the contents as the effects on them, in
their order, have made them. -/
theorem runAll {operations : List (CacheOperation V B R)}
    (tracked : ∀ operation ∈ operations, operation.Tracked)
    (served : ∀ failure, .error failure ∉ (CacheOperation.runAll codec operations cache).1) :
    ∃ left, (ledger.AllLive → left.AllLive) ∧
      stored.Carries left (stored.contentsAfter operations cache contents)
        (CacheOperation.runAll codec operations cache).2.store
        (CacheOperation.runAll codec operations cache).2.active ∧
      (CacheOperation.runAll codec operations cache).2.store.config = cache.store.config := by
  induction operations generalizing ledger contents cache with
  | nil => exact ⟨ledger, id, carries, rfl⟩
  | cons operation rest induction =>
      rcases List.forall_mem_cons.mp tracked with ⟨trackedFirst, trackedRest⟩
      rcases EntityCache.exists_of_served served with ⟨⟨answer, ran⟩, servedRest⟩
      rcases carries.step trackedFirst ran with ⟨middle, allLive, middleCarries, middleConfig⟩
      rcases induction middleCarries trackedRest servedRest with
        ⟨left, restAllLive, leftCarries, sameConfig⟩
      refine ⟨left, restAllLive ∘ allLive, ?_, sameConfig.trans middleConfig⟩
      have composed : stored.contentsAfter (operation :: rest) cache contents =
          stored.contentsAfter rest (operation.outcome codec cache).2 (fun key =>
            (stored.effectsOf key operation cache).foldl (fun content effect => effect content)
              (contents key)) := by
        funext key
        rw [contentsAfter, effects, List.foldl_append, contentsAfter]
      rw [composed]
      exact leftCarries

end Carries

end StoredPart

end PackedRecords
