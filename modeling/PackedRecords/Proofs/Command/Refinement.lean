import PackedRecords.Proofs.Command.RecordFile
import PackedRecords.Proofs.Command.Reports
import PackedRecords.Proofs.Disk.Paths

/-! # The commands refine a map

Each command opens the file anew, works on it and closes it again. Whatever commands
are carried out one after another, each reports what a map of payloads has, and the
file that it leaves passes verification.
-/

namespace PackedRecords

/-- A file that has been opened without locking it. -/
def OpenFile.unlocked (path : Path) (number : Nat) (disk : Disk) : OpenFile :=
  ⟨disk, ⟨path, number, (disk.contents number).size, false⟩⟩

theorem Disk.Sound.unlocked {path : Path} {number : Nat} {disk : Disk} (sound : disk.Sound)
    (opened : openFile path false disk = .ok number disk) :
    (OpenFile.unlocked path number disk).Sound :=
  ⟨sound.lt_of_openFile opened, SparseBytes.size_toByteArray _, opened⟩

namespace Command

/-! ## One command on a file of records -/

/-- The command reports what the payloads before it have, and leaves a file of records
with those after it. -/
def Carries (path : Path) (disk : Disk) (payloads updated : PayloadMap) (command : Command) :
    Prop :=
  ∃ number records, RecordFile path number records (command.perform path disk).2 ∧
    updated.Agrees (.ofRecords records) ∧
    command.Reports path payloads (image records) (command.perform path disk).1

section Outcomes

variable {path : Path} {number : Nat} {records : List Record} {disk after : Disk}
  {payloads updated : PayloadMap} {command : Command}

theorem carries_of_ok {answer : Answer} (ran : command.run path disk = .ok answer after)
    (left : RecordFile path number records after) (agrees : updated.Agrees (.ofRecords records))
    (reports : command.Reports path payloads (image records)
      ⟨command.heading path ++ answer.text, answer.failure?⟩) :
    command.Carries path disk payloads updated := by
  refine ⟨number, records, ?_, agrees, ?_⟩
  · rwa [perform, ran]
  · rwa [perform, ran]

theorem carries_of_error {failure : CommandError}
    (ran : command.run path disk = .error failure after)
    (left : RecordFile path number records after) (agrees : updated.Agrees (.ofRecords records))
    (reports : command.Reports path payloads (image records)
      ⟨command.heading path, some failure⟩) :
    command.Carries path disk payloads updated := by
  refine ⟨number, records, ?_, agrees, ?_⟩
  · rwa [perform, ran]
  · rwa [perform, ran]

end Outcomes

/-- Verification reads the file through a handle that holds no lock. -/
theorem verify_run {path : Path} {disk : Disk} {number : Nat}
    (opened : Disk.openFile path false disk = .ok number disk) :
    verify.run path disk =
      match verifyRecords (OpenFile.unlocked path number disk) with
      | .ok found file => .ok (.verified found) file.release.disk
      | .error failure file => .error (.device failure) file.release.disk := by
  have found : FileHandle.openPath path ⟨false, false⟩ disk =
      .ok (OpenFile.unlocked path number disk).handle disk := by
    simp only [FileHandle.openPath_run, opened, Bool.false_and, Bool.false_eq_true, if_false,
      OpenFile.unlocked]
  have same : (⟨disk, (OpenFile.unlocked path number disk).handle⟩ : OpenFile) =
      .unlocked path number disk := rfl
  cases ran : verifyRecords (OpenFile.unlocked path number disk) with
  | ok tally file =>
      have verified : onFile path verifyRecords disk = .ok tally file.release.disk := by
        simp only [onFile, found, same, ran]
      exact bind_of_ok verified
  | error failure file =>
      have failed : onFile path verifyRecords disk =
          .error (.device failure) file.release.disk := by
        simp only [onFile, found, same, ran]
      exact bind_of_error failed

/-- The keys of the map are those in use. -/
theorem contains_live_eq {payloads : PayloadMap} {records : List Record}
    (agrees : payloads.Agrees (.ofRecords records)) (key : EntityId) :
    (Ledger.ofRecords records).live.contains key = decide (key ∈ payloads) := by
  rw [Bool.eq_iff_iff, Std.ExtTreeSet.contains_iff_mem, decide_eq_true_iff]
  exact (agrees.mem_iff (fun _ => Ledger.mem_live_ofRecords.mp) key).symm

section Stored

variable {path : Path} {number : Nat} {records : List Record} {disk : Disk}
  {payloads : PayloadMap} (file : RecordFile path number records disk)
  (agrees : payloads.Agrees (.ofRecords records))
include file agrees

theorem carries_get (key : EntityId) (asHex : Bool) :
    (get key asHex).Carries path disk payloads payloads := by
  rcases file.onStore_ok rfl file.opened fun _ working => working.get key with
    ⟨after, ran, left, _⟩
  have look := agrees key
  cases found : payloads[key]? with
  | none =>
      rw [← look, found] at ran
      have failed : (get key asHex).run path disk = .error (.noRecord key) after := bind_of_ok ran
      apply carries_of_error failed left agrees
      rw [Reports, found]
      rfl
  | some payload =>
      rw [← look, found] at ran
      have answered : (get key asHex).run path disk = .ok (.payload asHex payload) after :=
        bind_of_ok ran
      apply carries_of_ok answered left agrees
      rw [Reports, found]
      refine ⟨_, rfl, ?_, showsPayload asHex payload⟩
      cases asHex <;> rfl

theorem carries_remove (key : EntityId) :
    (remove key).Carries path disk payloads (payloads.erase key) := by
  rcases file.onStore_ok rfl file.opened fun _ working => working.remove key with
    ⟨after, ran, left, same⟩
  have answered : (remove key).run path disk =
      .ok (.removed key ((Ledger.ofRecords records).live.contains key)) after := bind_of_ok ran
  have removed := agrees.remove key
  rw [← same] at removed
  apply carries_of_ok answered left removed
  rw [contains_live_eq agrees, Reports]
  by_cases present : key ∈ payloads
  · rw [decide_eq_true present, if_pos present]
    rfl
  · rw [decide_eq_false present, if_neg present]
    rfl

theorem carries_list (format : ReportFormat) :
    (list format).Carries path disk payloads payloads := by
  rcases file.onStore_ok rfl file.opened fun _ working => working.scan with
    ⟨after, ran, left, _⟩
  have answered : (list format).run path disk =
      .ok (.listing format (Ledger.ofRecords records).listing) after := bind_of_ok ran
  exact carries_of_ok answered left agrees
    ⟨_, rfl, Listing.read?_render format _, listingOf_listing agrees file.distinct file.within⟩

theorem carries_inspect (format : ReportFormat) :
    (inspect format).Carries path disk payloads payloads := by
  have scans : ∀ store, Working path number disk (.ofRecords records) store →
      ∃ after, scanWithSize store =
          .ok ((Ledger.ofRecords records).listing, (image records).size) after ∧
        Working path number disk (.ofRecords records) after := by
    intro store working
    rcases working.scan with ⟨middle, scanned, middleWorking⟩
    rcases middleWorking.fileSize with ⟨after, sized, afterWorking⟩
    refine ⟨after, ?_, afterWorking⟩
    rw [scanWithSize, bind_of_ok scanned, bind_of_ok sized]
    rfl
  rcases file.onStore_ok rfl file.opened scans with ⟨after, ran, left, _⟩
  have answered : (inspect format).run path disk =
      .ok (.summary format (.ofRecords path (image records).size
        (Ledger.ofRecords records).listing)) after := bind_of_ok ran
  exact carries_of_ok answered left agrees
    ⟨_, rfl, Summary.shows_render format _,
      summaryOf_listing agrees file.distinct file.within path⟩

/-- Verification passes and leaves the file alone. -/
theorem carries_verify : verify.Carries path disk payloads payloads := by
  -- In memory the bytes pass; the open file answers the same, since it refuses no read.
  have memoryRan := Verification.verifyRecords_image file.within file.distinct
  rw [← file.bytes] at memoryRan
  have follows : (FaithfulDevice.reflection OpenFile).Follows _ _ :=
    Verification.follows_verifyRecords
  have started := file.sound.unlocked file.opened
  rcases follows.ok_of_reference started
      (fun _ _ failed =>
        ((confined_verifyRecords OpenFile.confined_sound).error started failed).2)
      memoryRan with ⟨after, ran, _, bytes⟩
  have hold := (confined_verifyRecords (OpenFile.confinedCalls_sameHold _)).ok
    (OpenFile.SameHold.refl _) ran
  have unlocked : after.release = after := by
    rw [OpenFile.release, FileHandle.release, hold.locked]
    rfl
  have verified : verify.run path disk = .ok (.verified (.clean records.length
      (disk.contents number).toByteArray.size)) after.disk := by
    rw [verify_run file.opened, ran]
    simp only [unlocked]
  have held : (after.disk.contents number).toByteArray = image records := by
    have same : after.handle.number = number := hold.number
    rw [← same, ← file.bytes]
    exact congrArg Memory.bytes bytes
  have left : RecordFile path number records after.disk :=
    file.of_sameNames hold.nodes hold.locks hold.count held file.within file.distinct
  apply carries_of_ok verified left agrees
  rw [Reports, size_eq_length agrees file.distinct, ← file.bytes]
  rfl

end Stored

section Put

variable {path : Path} {number : Nat} {records : List Record} {disk prepared created : Disk}
  {payloads : PayloadMap} (file : RecordFile path number records created)
  (agrees : payloads.Agrees (.ofRecords records))
  (ready : Store.prepare (config true) path disk = .ok () prepared)
  (found : Disk.openFile path true prepared = .ok number created)
  (key : EntityId) {payload : ByteArray}
include file agrees ready found

/-- A payload that is too large is refused, also when the file has just been created. -/
theorem carries_put_large (large : maxPayloadSize < payload.size) :
    (put key payload).Carries path disk payloads payloads := by
  have refuses : ∀ store, Working path number created (.ofRecords records) store →
      ∃ after, putNoting key payload store =
          .error (.payloadTooLarge payload.size maxPayloadSize) after ∧
        Working path number created (.ofRecords records) after := by
    intro store working
    rcases working.contains key with ⟨after, noted, afterWorking⟩
    refine ⟨after, ?_, afterWorking⟩
    rw [putNoting, bind_of_ok noted, bind_of_error (afterWorking.put_large large key)]
  rcases file.onStore_error ready found refuses with ⟨after, ran, left, _⟩
  have failed : (put key payload).run path disk =
      .error (.store (.payloadTooLarge payload.size maxPayloadSize)) after := bind_of_error ran
  apply carries_of_error failed left agrees
  rw [Reports, if_pos large]
  rfl

/-- A put reports whether it has found the key, and leaves its payload in the file, which
may just have been created. -/
theorem carries_put_short (short : payload.size ≤ maxPayloadSize)
    (room : PayloadMap.packedSize (payloads.insert key payload) ≤ OpenFile.sizeLimit) :
    (put key payload).Carries path disk payloads (payloads.insert key payload) := by
  have recorded : ∀ key ∈ (Ledger.ofRecords records).live, key ∈ keysOf records :=
    fun _ => Ledger.mem_live_ofRecords.mp
  have added := agrees.put recorded key payload
  have unshadowed : ∀ key, (Ledger.ofRecords records).Unshadowed key := fun key =>
    Ledger.unshadowed_ofRecords (List.nodup_iff_count.mp file.distinct key)
  have fits : ((Ledger.ofRecords records).put key payload).Fits := by
    rw [Ledger.Fits, ← added.packedSize_eq fun other => (unshadowed other).put key payload]
    exact room
  have puts : ∀ store, Working path number created (.ofRecords records) store →
      ∃ after, putNoting key payload store =
          .ok ((Ledger.ofRecords records).live.contains key) after ∧
        Working path number created ((Ledger.ofRecords records).put key payload) after := by
    intro store working
    rcases working.contains key with ⟨middle, noted, middleWorking⟩
    rcases middleWorking.put short key fits with ⟨after, ran, afterWorking⟩
    refine ⟨after, ?_, afterWorking⟩
    rw [putNoting, bind_of_ok noted, bind_of_ok ran]
    rfl
  rcases file.onStore_ok ready found puts with ⟨after, ran, left, same⟩
  have answered : (put key payload).run path disk =
      .ok (.stored key payload.size ((Ledger.ofRecords records).live.contains key)) after :=
    bind_of_ok ran
  rw [← same] at added
  apply carries_of_ok answered left added
  rw [contains_live_eq agrees, Reports, if_neg (Nat.not_lt_of_le short)]
  by_cases present : key ∈ payloads
  · rw [decide_eq_true present, if_pos present]
    rfl
  · rw [decide_eq_false present, if_neg present]
    rfl

end Put

theorem carries_put {path : Path} {number : Nat} {records : List Record}
    {disk prepared created : Disk} {payloads? : Option PayloadMap}
    (file : RecordFile path number records created)
    (agrees : (payloads?.getD ∅).Agrees (.ofRecords records))
    (ready : Store.prepare (config true) path disk = .ok () prepared)
    (found : Disk.openFile path true prepared = .ok number created) (key : EntityId)
    {payload : ByteArray} {updated : PayloadMap}
    (changed : (put key payload).apply payloads? = some updated)
    (room : updated.packedSize ≤ OpenFile.sizeLimit) :
    (put key payload).Carries path disk (payloads?.getD ∅) updated := by
  rw [apply, Option.some_inj] at changed
  subst changed
  by_cases large : maxPayloadSize < payload.size
  · simp only [if_pos large]
    exact carries_put_large file agrees ready found key large
  · simp only [if_neg large] at room ⊢
    exact carries_put_short file agrees ready found key (Nat.le_of_not_lt large) room

/-! ## Commands one after another -/

/-- What stands at a path: a place for a file, whose parents can be created, or a file
that passes verification and that nobody has locked. -/
inductive Usable (path : Path) (disk : Disk) : Prop
  | missing {prepared created : Disk} {number : Nat} {reason : SystemError}
      (parents : Disk.ensureParents path disk = .ok () prepared)
      (absent : Disk.openFile path false prepared = .error reason prepared)
      (creates : Disk.openFile path true prepared = .ok number created)
  | present {number : Nat}
      (opened : Disk.openFile path false disk = .ok number disk)
      (free : number ∉ disk.locks)
      (passes : (verify.perform path disk).1.failure? = none)

/-- The file at a path has one record for each payload and nothing else; or there is no
file that has any. -/
def Holds (path : Path) (disk : Disk) : Option PayloadMap → Prop
  | none => ∃ reason, Disk.openFile path false disk = .error reason disk
  | some payloads => ∃ records, disk.contentsAt path = .ok (image records) ∧
      AllWithin maxPayloadSize records ∧ (keysOf records).Nodup ∧ payloads = .ofRecords records

/-- The packed size of the payloads is the size of the file. -/
theorem Holds.size_eq {path : Path} {disk : Disk} {payloads : PayloadMap} {bytes : ByteArray}
    (holds : Holds path disk (some payloads)) (read : disk.contentsAt path = .ok bytes) :
    bytes.size = payloads.packedSize := by
  rcases holds with ⟨records, held, _, distinct, rfl⟩
  rw [read] at held
  cases held
  exact size_image_eq (PayloadMap.agrees_ofRecords records) distinct

/-- The system can count the bytes of the file that each of the commands leaves. -/
def Fit : Option PayloadMap → List Command → Prop
  | _, [] => True
  | payloads?, command :: rest =>
      (∀ payloads ∈ command.apply payloads?, payloads.packedSize ≤ OpenFile.sizeLimit) ∧
        Fit (command.apply payloads?) rest

instance decidableFit :
    (payloads? : Option PayloadMap) → (commands : List Command) → Decidable (Fit payloads? commands)
  | _, [] => isTrue trivial
  | payloads?, command :: rest =>
      have := decidableFit (command.apply payloads?) rest
      inferInstanceAs (Decidable (_ ∧ _))

/-- While there is no file, a command that creates none fails. Otherwise a command
reports what the payloads before it and the file have, and leaves a file of those after
it, which passes verification. -/
def Refines (path : Path) (disk : Disk) (payloads? : Option PayloadMap) (command : Command) :
    Prop :=
  Holds path (command.perform path disk).2 (command.apply payloads?) ∧
    match command.apply payloads? with
    | none =>
        (command.perform path disk).1.failure? ≠ none ∧ (command.perform path disk).2 = disk
    | some _ =>
        (∃ bytes, (command.perform path disk).2.contentsAt path = .ok bytes ∧
          command.Reports path (payloads?.getD ∅) bytes (command.perform path disk).1) ∧
        (verify.perform path (command.perform path disk).2).1.failure? = none

/-- Each command of a list refines the map that the commands before it have left. -/
def RefineAll (path : Path) : Disk → Option PayloadMap → List Command → Prop
  | _, _, [] => True
  | disk, payloads?, command :: rest =>
      command.Refines path disk payloads? ∧
        RefineAll path (command.perform path disk).2 (command.apply payloads?) rest

/-- What the commands rely on: no file and a place for one, or a file of records. -/
inductive Stands (path : Path) (disk : Disk) : Option PayloadMap → Prop
  | missing {prepared created : Disk} {number : Nat}
      (parents : Disk.ensureParents path disk = .ok () prepared)
      (creates : Disk.openFile path true prepared = .ok number created)
      (empty : RecordFile path number [] created)
      (absent : ∃ reason, Disk.openFile path false disk = .error reason disk) :
      Stands path disk none
  | present {number : Nat} {records : List Record} {payloads : PayloadMap}
      (file : RecordFile path number records disk)
      (agrees : payloads.Agrees (.ofRecords records)) : Stands path disk (some payloads)

theorem Stands.holds {path : Path} {disk : Disk} {payloads? : Option PayloadMap}
    (stands : Stands path disk payloads?) : Holds path disk payloads? := by
  cases stands with
  | missing parents creates empty absent => exact absent
  | @present number records payloads file agrees =>
      refine ⟨records, ?_, file.within, file.distinct, ?_⟩
      · rw [← file.bytes]
        exact Disk.contentsAt_of_openFile file.opened
      · apply Std.ExtTreeMap.ext_getElem?
        intro key
        rw [agrees key, PayloadMap.agrees_ofRecords records key]

/-- A command that leaves a file of records refines the map. -/
theorem Carries.step {path : Path} {disk : Disk} {payloads? : Option PayloadMap}
    {updated : PayloadMap} {command : Command}
    (changed : command.apply payloads? = some updated)
    (carries : command.Carries path disk (payloads?.getD ∅) updated) :
    command.Refines path disk payloads? ∧
      Stands path (command.perform path disk).2 (command.apply payloads?) := by
  rcases carries with ⟨number, records, file, agrees, reports⟩
  have stands : Stands path (command.perform path disk).2 (command.apply payloads?) := by
    rw [changed]
    exact .present file agrees
  refine ⟨⟨stands.holds, ?_⟩, stands⟩
  rcases carries_verify file agrees with ⟨_, _, _, _, passes⟩
  rw [changed]
  refine ⟨⟨image records, ?_, reports⟩, ?_⟩
  · rw [← file.bytes]
    exact Disk.contentsAt_of_openFile file.opened
  · rw [passes]

section Absent

variable {path : Path} {disk : Disk} {reason : SystemError}
  (absent : Disk.openFile path false disk = .error reason disk)
include absent

theorem onStore_absent {α : Type} (action : StoreM OpenFile α) :
    onStore path false action disk =
      .error (.cannotOpen path (.device (.io (.system reason)))) disk := by
  have ready : Store.prepare (config false) path disk = .ok () disk := rfl
  have refused : Store.openHandle (config false) path disk =
      .error (.device (.io (.system reason))) disk := by
    rw [Store.openHandle_run, ready]
    simp only [FileHandle.openPath_run, config, absent, StoreError.ofOpening]
  simp only [onStore, Store.openPath, refused]

/-- Without a file only a put does anything. -/
theorem exists_run_absent {command : Command} (idle : command.apply none = none) :
    ∃ failure, command.run path disk = .error failure disk := by
  cases command with
  | put key payload => cases idle
  | inspect format => exact ⟨_, bind_of_error (onStore_absent absent _)⟩
  | list format => exact ⟨_, bind_of_error (onStore_absent absent _)⟩
  | get key asHex => exact ⟨_, bind_of_error (onStore_absent absent _)⟩
  | remove key => exact ⟨_, bind_of_error (onStore_absent absent _)⟩
  | verify =>
      have refused : onFile path verifyRecords disk =
          .error (.device (.io (.system reason))) disk := by
        simp only [onFile, FileHandle.openPath_run, absent]
      exact ⟨_, bind_of_error refused⟩

end Absent

/-- What a command does to a file, if there is room for what it leaves. -/
theorem exists_carries {path : Path} {disk : Disk} {number : Nat} {records : List Record}
    {payloads : PayloadMap} (file : RecordFile path number records disk)
    (agrees : payloads.Agrees (.ofRecords records)) {command : Command}
    (room : ∀ updated ∈ command.apply (some payloads),
      updated.packedSize ≤ OpenFile.sizeLimit) :
    ∃ updated, command.apply (some payloads) = some updated ∧
      command.Carries path disk payloads updated := by
  cases command with
  | put key payload =>
      have ready : Store.prepare (config true) path disk = .ok () disk :=
        Disk.ensureParents_of_hasParent (Disk.hasParent_of_openFile file.opened)
      have found := Disk.openFile_of_exists file.opened true
      have given : ((some payloads).getD ∅).Agrees (.ofRecords records) := agrees
      exact ⟨_, rfl, carries_put file given ready found key rfl (room _ rfl)⟩
  | remove key => exact ⟨_, rfl, carries_remove file agrees key⟩
  | get key asHex => exact ⟨_, rfl, carries_get file agrees key asHex⟩
  | list format => exact ⟨_, rfl, carries_list file agrees format⟩
  | inspect format => exact ⟨_, rfl, carries_inspect file agrees format⟩
  | verify => exact ⟨_, rfl, carries_verify file agrees⟩

/-- One command refines the map, if there is room for what it leaves. -/
theorem Stands.step {path : Path} {disk : Disk} {payloads? : Option PayloadMap}
    (stands : Stands path disk payloads?) {command : Command}
    (room : ∀ updated ∈ command.apply payloads?, updated.packedSize ≤ OpenFile.sizeLimit) :
    command.Refines path disk payloads? ∧
      Stands path (command.perform path disk).2 (command.apply payloads?) := by
  cases stands with
  | missing parents creates empty absent =>
      rcases absent with ⟨reason, absent⟩
      cases changed : command.apply none with
      | none =>
          rcases exists_run_absent absent changed with ⟨failure, ran⟩
          have performed : command.perform path disk =
              (⟨command.heading path, some failure⟩, disk) := by
            rw [perform, ran]
          rw [Refines, changed, performed]
          exact ⟨⟨⟨reason, absent⟩, Option.some_ne_none _, rfl⟩,
            .missing parents creates empty ⟨reason, absent⟩⟩
      | some updated =>
          -- Of the commands only a put creates the file, and it finds no records there.
          cases command with
          | put key payload =>
              have ready : Store.prepare (config true) path disk = .ok () _ := parents
              have agrees : ((none : Option PayloadMap).getD ∅).Agrees (.ofRecords []) :=
                PayloadMap.agrees_ofRecords []
              have carries := carries_put empty agrees ready creates key changed
                (room updated changed)
              rw [← changed]
              exact carries.step changed
          | _ => cases changed
  | present file agrees =>
      rcases exists_carries file agrees room with ⟨updated, changed, carries⟩
      exact carries.step changed

/-- Commands carried out one after another refine the map that stands at the path. -/
theorem Stands.refineAll {path : Path} {disk : Disk} {payloads? : Option PayloadMap}
    (stands : Stands path disk payloads?) {commands : List Command}
    (fit : Fit payloads? commands) : RefineAll path disk payloads? commands := by
  -- Every command leaves a disk on which the rest can start again.
  induction commands generalizing disk payloads? with
  | nil => trivial
  | cons command rest induction =>
      rcases fit with ⟨room, restFit⟩
      rcases stands.step room with ⟨refines, stands⟩
      exact ⟨refines, induction stands restFit⟩

/-! ## Where commands can start -/

/-- A file that passes verification is one of records. -/
theorem exists_recordFile {path : Path} {disk : Disk} {number : Nat} (sound : disk.Sound)
    (opened : Disk.openFile path false disk = .ok number disk) (free : number ∉ disk.locks)
    (passes : (verify.perform path disk).1.failure? = none) :
    ∃ records, RecordFile path number records disk := by
  rw [perform, verify_run opened] at passes
  cases ran : verifyRecords (OpenFile.unlocked path number disk) with
  | error failure after =>
      rw [ran] at passes
      cases passes
  | ok found after =>
      rw [ran] at passes
      have passed : found.passed = true := by
        by_contra failed
        simp [Answer.failure?, failed] at passes
      have follows : (FaithfulDevice.reflection OpenFile).Follows _ _ :=
        Verification.follows_verifyRecords
      have memoryRan := (follows.ok (sound.unlocked opened) ran).2
      rcases Verification.exists_records_of_passed memoryRan passed with
        ⟨records, bytes, within, distinct⟩
      exact ⟨records, sound, opened, free, bytes, within, distinct⟩

theorem Usable.exists_stands {path : Path} {disk : Disk} (sound : disk.Sound)
    (usable : Usable path disk) : ∃ payloads?, Stands path disk payloads? := by
  cases usable with
  | @missing prepared created number reason parents absent creates =>
      have grows := Disk.grows_of_ensureParents parents
      -- The new file has a number that nobody can have locked yet.
      have creation := Disk.grows_of_openFile creates
      have preparedSound := grows.sound sound
      rcases Disk.openFile_new absent creates with ⟨fresh, bytes, opened⟩
      have free : number ∉ created.locks := by
        rw [creation.locks, fresh]
        exact fun member => Nat.lt_irrefl _ (preparedSound.locked _ member)
      have empty : RecordFile path number [] created :=
        { sound := creation.sound preparedSound
          opened := opened
          free := free
          bytes := bytes
          within := List.forall_mem_nil _
          distinct := List.nodup_nil }
      refine ⟨none, .missing parents creates empty ?_⟩
      cases before : Disk.openFile path false disk with
      | error failure after =>
          rw [Disk.openFile_error before]
          exact ⟨failure, rfl⟩
      | ok existing after =>
          -- A file that there was would still be there.
          rcases Disk.openFile_ok before with ⟨_, _, ⟨_, rfl⟩ | ⟨impossible, _⟩⟩
          · have still := Disk.openFile_mono grows.nodes before
            rw [absent] at still
            cases still
          · cases impossible
  | present opened free passes =>
      rcases exists_recordFile sound opened free passes with ⟨records, file⟩
      exact ⟨_, .present file (PayloadMap.agrees_ofRecords records)⟩

/-- Commands carried out one after another refine a map: that of the records of a file
that passes verification, or none before there is a file. -/
theorem refineAll_of_usable {path : Path} {disk : Disk} (sound : disk.Sound)
    (usable : Usable path disk) :
    ∃ payloads?, Holds path disk payloads? ∧
      ∀ commands, Fit payloads? commands → RefineAll path disk payloads? commands := by
  rcases usable.exists_stands sound with ⟨payloads?, stands⟩
  exact ⟨payloads?, stands.holds, fun _ fit => stands.refineAll fit⟩

/-- On an empty disk a payload is put, replaced, read and removed. -/
theorem refineAll_of_usable_empty_disk :
    ({} : Disk).Sound ∧ Usable ⟨"roles.db"⟩ {} ∧
      RefineAll ⟨"roles.db"⟩ {} none
        [.verify, .put (.replicate 1) ⟨#[97]⟩, .put (.replicate 1) ⟨#[98, 99]⟩,
          .get (.replicate 1) false, .inspect .text, .remove (.replicate 1), .list .json] := by
  have sound : ({} : Disk).Sound :=
    ⟨fun _ _ => List.not_mem_nil.elim, fun _ => List.not_mem_nil.elim⟩
  have located : ({} : Disk).locate ⟨"roles.db"⟩ = .ok (.name ["roles.db"] false) := by
    rw [Disk.locate_ok_iff]
    decide +kernel
  have absent : Disk.openFile ⟨"roles.db"⟩ false {} = .error .notFound {} := by
    rw [Disk.openFile_run, located]
    rfl
  have creates : Disk.openFile ⟨"roles.db"⟩ true {} = .ok 0 (Disk.withFile {} ["roles.db"]) := by
    rw [Disk.openFile_run, located]
    rfl
  have usable : Usable ⟨"roles.db"⟩ {} := .missing rfl absent creates
  refine ⟨sound, usable, ?_⟩
  rcases refineAll_of_usable sound usable with ⟨payloads?, holds, refines⟩
  cases payloads? with
  | none => exact refines _ (by decide +kernel)
  | some payloads =>
      exfalso
      rcases holds with ⟨records, held, _⟩
      rw [Disk.contentsAt, Disk.nodeAt, located] at held
      cases held

end Command

end PackedRecords
