import PackedRecords.Disk.Basic
import PackedRecords.Proofs.Simulation

/-! # What opening and creating do to a disk

Opening finds a file that has a name or adds a new one; creating directories adds names.
Neither takes anything away: what a name stood for before, it stands for afterwards, and
no file's bytes and no lock are touched.
-/

namespace PackedRecords

namespace Disk

/-- Every name of a file leads to contents, and only files with contents are locked. -/
structure Sound (disk : Disk) : Prop where
  named : ∀ names number, (names, Node.file number) ∈ disk.nodes → number < disk.files.size
  locked : ∀ number ∈ disk.locks, number < disk.files.size

theorem mem_nodes_of_node? {disk : Disk} {names : List String} {node : Node}
    (found : disk.node? names = some node) : (names, node) ∈ disk.nodes := by
  rw [node?, List.lookup_eq_some_iff] at found
  rcases found with ⟨before, after, split, _⟩
  rw [split]
  exact List.mem_append_right _ List.mem_cons_self

theorem node?_of_find {disk : Disk} {names : List String} {node? : Option Node}
    (found : disk.find names = .ok node?) : disk.node? names = node? := by
  rw [find] at found
  split at found
  · cases found
  · exact Except.ok.inj found

theorem Sound.lt_of_find {disk : Disk} (sound : disk.Sound) {names : List String}
    {number : Nat} (found : disk.find names = .ok (some (.file number))) :
    number < disk.files.size :=
  sound.named names number (mem_nodes_of_node? (node?_of_find found))

/-! ## Bytes of a file -/

theorem contents_modify {disk : Disk} {number : Nat} (inside : number < disk.files.size)
    (change : SparseBytes → SparseBytes) :
    (disk.modify number change).contents number = change (disk.contents number) := by
  rcases disk with ⟨nodes, files, locks⟩
  simp only [contents, modify]
  have kept : number < (files.modify number change).size := by
    rwa [Array.size_modify]
  rw [Array.getD_eq_getD_getElem?, Array.getD_eq_getD_getElem?,
    Array.getElem?_eq_getElem kept, Array.getElem?_eq_getElem inside, Array.getElem_modify_self]
  rfl

theorem size_files_modify (disk : Disk) (number : Nat) (change : SparseBytes → SparseBytes) :
    (disk.modify number change).files.size = disk.files.size :=
  Array.size_modify

/-! ## Growing -/

/-- Names and files may have been added; everything else is as it was. -/
structure Grows (disk after : Disk) : Prop where
  nodes : disk.nodes <+: after.nodes
  count : disk.files.size ≤ after.files.size
  contents : ∀ number < disk.files.size, after.contents number = disk.contents number
  locks : after.locks = disk.locks
  sound : disk.Sound → after.Sound

theorem Grows.refl (disk : Disk) : disk.Grows disk :=
  ⟨List.prefix_refl _, Nat.le_refl _, fun _ _ => rfl, rfl, id⟩

theorem Grows.trans {first second third : Disk} (earlier : first.Grows second)
    (later : second.Grows third) : first.Grows third where
  nodes := earlier.nodes.trans later.nodes
  count := Nat.le_trans earlier.count later.count
  contents number inside := by
    rw [later.contents number (Nat.lt_of_lt_of_le inside earlier.count),
      earlier.contents number inside]
  locks := later.locks.trans earlier.locks
  sound := later.sound ∘ earlier.sound

/-- What has a name goes on having it. -/
theorem find_mono {disk after : Disk} (kept : disk.nodes <+: after.nodes)
    {names : List String} {node : Node} (found : disk.find names = .ok (some node)) :
    after.find names = .ok (some node) := by
  rcases kept with ⟨added, split⟩
  have held := node?_of_find found
  rw [find] at found ⊢
  split at found
  · cases found
  · rename_i short
    rw [if_neg short, node?, ← split, List.lookup_append]
    rw [node?] at held
    rw [held, Option.some_or]

/-- The disk with a new empty file. -/
def withFile (disk : Disk) (names : List String) : Disk :=
  { disk with
    nodes := disk.nodes ++ [(names, .file disk.files.size)]
    files := disk.files.push (.ofByteArray ByteArray.empty) }

theorem contents_withFile (disk : Disk) (names : List String) :
    (disk.withFile names).contents disk.files.size = .ofByteArray ByteArray.empty := by
  simp [contents, withFile, Array.getD_eq_getD_getElem?]

theorem grows_withFile (disk : Disk) (names : List String) :
    disk.Grows (disk.withFile names) where
  nodes := List.prefix_append _ _
  count := by simp [withFile]
  contents number inside := by
    simp [contents, withFile, Array.getD_eq_getD_getElem?, Array.getElem?_push, Nat.ne_of_lt inside]
  locks := rfl
  sound sound := by
    constructor
    · intro other number member
      simp only [withFile, List.mem_append, List.mem_singleton, Prod.mk.injEq,
        Node.file.injEq] at member
      simp only [withFile, Array.size_push]
      rcases member with old | ⟨_, same⟩
      · exact Nat.lt_succ_of_lt (sound.named other number old)
      · omega
    · intro number member
      simp only [withFile, Array.size_push]
      exact Nat.lt_succ_of_lt (sound.locked number member)

/-- The disk with a new directory. -/
def withDirectory (disk : Disk) (names : List String) : Disk :=
  { disk with nodes := disk.nodes ++ [(names, .directory)] }

theorem grows_withDirectory (disk : Disk) (names : List String) :
    disk.Grows (disk.withDirectory names) where
  nodes := List.prefix_append _ _
  count := Nat.le_refl _
  contents _ _ := rfl
  locks := rfl
  sound sound := by
    constructor
    · intro other number member
      simp only [withDirectory, List.mem_append, List.mem_singleton, Prod.mk.injEq,
        reduceCtorEq, and_false, or_false] at member
      exact sound.named other number member
    · exact sound.locked

/-- A name that is not in use can be given to a directory. -/
theorem find_withDirectory {disk : Disk} {names : List String}
    (free : disk.find names = .ok none) :
    (disk.withDirectory names).find names = .ok (some .directory) := by
  have missing := node?_of_find free
  rw [find] at free ⊢
  split at free
  · cases free
  · rename_i short
    rw [node?] at missing
    rw [if_neg short, node?, withDirectory, List.lookup_append, missing]
    simp

theorem find_withFile {disk : Disk} {names : List String}
    (free : disk.find names = .ok none) :
    (disk.withFile names).find names = .ok (some (.file disk.files.size)) := by
  have missing := node?_of_find free
  rw [find] at free ⊢
  split at free
  · cases free
  · rename_i short
    rw [node?] at missing
    rw [if_neg short, node?, withFile, List.lookup_append, missing]
    simp

/-! ## Opening a file -/

/-- A question changes nothing, and its failure is the end. -/
theorem ask_bind {α β : Type} (question : Disk → Except SystemError α) (next : α → DiskM β)
    (disk : Disk) :
    (ask question >>= next) disk =
      match question disk with
      | .ok answer => next answer disk
      | .error reason => .error reason disk := by
  cases answered : question disk with
  | ok answer =>
      have asked : ask question disk = .ok answer disk := by
        simp only [ask, answered]
      exact bind_of_ok asked
  | error reason =>
      have asked : ask question disk = .error reason disk := by
        simp only [ask, answered]
      exact bind_of_error asked

/-- Opening goes by what the path leads to and by what has that name. -/
theorem openFile_run (path : Path) (create : Bool) (disk : Disk) :
    openFile path create disk =
      match disk.locate path with
      | .error reason => .error reason disk
      | .ok .directory => .error .isADirectory disk
      | .ok (.name names asDirectory) =>
          if create && asDirectory then .error .isADirectory disk
          else
            match disk.find names with
            | .error reason => .error reason disk
            | .ok (some .directory) => .error .isADirectory disk
            | .ok (some (.file number)) =>
                if asDirectory then .error .notADirectory disk else .ok number disk
            | .ok none =>
                if create then .ok disk.files.size (disk.withFile names)
                else .error .notFound disk := by
  rw [openFile, ask_bind]
  rcases disk.locate path with reason | _ | ⟨names, asDirectory⟩
  · rfl
  · rfl
  · cases refused : create && asDirectory with
    | true =>
        simp only [refused, if_true]
        rw [bind_of_error (throw_run _)]
    | false =>
        simp only [refused, Bool.false_eq_true, if_false]
        rw [ask_bind]
        rcases disk.find names with reason | _ | _ | number
        · rfl
        · cases create <;> rfl
        · rfl
        · cases asDirectory <;> rfl

/-- A file that has been opened had its name already or has got it now. -/
theorem openFile_ok {path : Path} {create : Bool} {disk after : Disk} {number : Nat}
    (ran : openFile path create disk = .ok number after) :
    ∃ names, disk.locate path = .ok (.name names false) ∧
      (disk.find names = .ok (some (.file number)) ∧ after = disk ∨
        create = true ∧ disk.find names = .ok none ∧ number = disk.files.size ∧
          after = disk.withFile names) := by
  rw [openFile_run] at ran
  rcases located : disk.locate path with reason | _ | ⟨names, asDirectory⟩
  · simp [located] at ran
  · simp [located] at ran
  · simp only [located] at ran
    cases asDirectory with
    | true =>
        exfalso
        rcases found : disk.find names with reason | _ | _ | _ <;>
          cases create <;> simp [found] at ran
    | false =>
        refine ⟨names, rfl, ?_⟩
        rcases found : disk.find names with reason | _ | _ | existing
        · simp [found] at ran
        · cases create with
          | false => simp [found] at ran
          | true =>
              simp only [found, Bool.and_false, Bool.false_eq_true, if_false, if_true] at ran
              cases ran
              exact .inr ⟨rfl, rfl, rfl, rfl⟩
        · simp [found] at ran
        · simp only [found, Bool.and_false, Bool.false_eq_true, if_false] at ran
          cases ran
          exact .inl ⟨rfl, rfl⟩

/-- A file that cannot be opened costs the disk nothing. -/
theorem openFile_error {path : Path} {create : Bool} {disk after : Disk}
    {reason : SystemError} (ran : openFile path create disk = .error reason after) :
    after = disk := by
  rw [openFile_run] at ran
  split at ran
  · cases ran
    rfl
  · cases ran
    rfl
  · split at ran
    · cases ran
      rfl
    · split at ran
      · cases ran
        rfl
      · cases ran
        rfl
      · split at ran <;> cases ran
        rfl
      · split at ran <;> cases ran
        rfl

theorem grows_of_openFile {path : Path} {create : Bool} {disk after : Disk} {number : Nat}
    (ran : openFile path create disk = .ok number after) : disk.Grows after := by
  rcases openFile_ok ran with ⟨names, _, ⟨_, same⟩ | ⟨_, _, _, same⟩⟩
  · rw [same]
    exact Grows.refl disk
  · rw [same]
    exact grows_withFile disk names

theorem Sound.lt_of_openFile {path : Path} {create : Bool} {disk after : Disk}
    {number : Nat} (sound : disk.Sound) (ran : openFile path create disk = .ok number after) :
    number < after.files.size := by
  rcases openFile_ok ran with ⟨names, _, ⟨found, same⟩ | ⟨_, _, fresh, same⟩⟩
  · rw [same]
    exact sound.lt_of_find found
  · simp [same, fresh, withFile]

/-! ## What paths lead to -/

/-- What is at a path is what its name stands for. -/
theorem nodeAt_run (disk : Disk) (path : Path) :
    disk.nodeAt path =
      match disk.locate path with
      | .error reason => .error reason
      | .ok .directory => .ok .directory
      | .ok (.name names asDirectory) =>
          match disk.find names with
          | .error reason => .error reason
          | .ok none => .error .notFound
          | .ok (some .directory) => .ok .directory
          | .ok (some (.file number)) =>
              if asDirectory then .error .notADirectory else .ok (.file number) := by
  rw [nodeAt]
  rcases disk.locate path with reason | _ | ⟨names, asDirectory⟩
  · rfl
  · rfl
  · simp only [bind, Except.bind]
    rcases disk.find names with reason | _ | _ | number
    · rfl
    · rfl
    · rfl
    · cases asDirectory <;> rfl

/-- A text that the system accepts as a path is followed from the root. -/
theorem locate_ok_iff {disk : Disk} {path : Path} {place : Place} :
    disk.locate path = .ok place ↔
      (Char.ofNat 0 ∉ path.text.toList ∧ path.text.utf8ByteSize ≤ pathLimit ∧ path.text ≠ "") ∧
        disk.follow [] path.pieces = .ok place := by
  rw [locate, String.contains_char_eq, ← Nat.not_lt]
  by_cases printable : Char.ofNat 0 ∈ path.text.toList
  · simp [printable]
  · by_cases long : pathLimit < path.text.utf8ByteSize
    · simp [printable, long]
    · by_cases empty : path.text = ""
      · simp [empty]
      · simp [printable, long, empty]

section Kept

variable {disk after : Disk} (kept : disk.nodes <+: after.nodes)
include kept

/-- A path goes on leading where it has led. -/
theorem follow_mono {pieces here : List String} {place : Place}
    (followed : disk.follow here pieces = .ok place) :
    after.follow here pieces = .ok place := by
  induction pieces generalizing here with
  | nil => exact followed
  | cons piece rest induction =>
      rw [Disk.follow] at followed ⊢
      split at followed
      · rename_i stays
        rw [if_pos stays]
        exact induction followed
      · rename_i moves
        rw [if_neg moves]
        split at followed
        · rename_i up
          rw [if_pos up]
          exact induction followed
        · rename_i named
          rw [if_neg named]
          split at followed
          · rename_i last
            rw [if_pos last]
            exact followed
          · rename_i inner
            rw [if_neg inner]
            split at followed
            · rename_i found
              rw [find_mono kept found]
              exact induction followed
            all_goals cases followed

theorem locate_mono {path : Path} {place : Place} (located : disk.locate path = .ok place) :
    after.locate path = .ok place := by
  rcases locate_ok_iff.mp located with ⟨usable, followed⟩
  exact locate_ok_iff.mpr ⟨usable, follow_mono kept followed⟩

/-- A file that can be opened can still be opened. -/
theorem openFile_mono {path : Path} {number : Nat}
    (opened : openFile path false disk = .ok number disk) :
    openFile path false after = .ok number after := by
  rcases openFile_ok opened with ⟨names, located, ⟨found, _⟩ | ⟨impossible, _⟩⟩
  · rw [openFile_run, locate_mono kept located]
    simp [find_mono kept found]
  · cases impossible

end Kept

/-- Only the names decide what can be opened. -/
theorem openFile_of_nodes_eq {path : Path} {disk after : Disk} {number : Nat}
    (opened : openFile path false disk = .ok number disk) (same : after.nodes = disk.nodes) :
    openFile path false after = .ok number after :=
  openFile_mono (same ▸ List.prefix_refl disk.nodes) opened

/-- A file that exists is found, whether or not it would be created. -/
theorem openFile_of_exists {path : Path} {disk : Disk} {number : Nat}
    (opened : openFile path false disk = .ok number disk) (create : Bool) :
    openFile path create disk = .ok number disk := by
  rcases openFile_ok opened with ⟨names, located, ⟨found, _⟩ | ⟨impossible, _⟩⟩
  · rw [openFile_run, located]
    simp [found]
  · cases impossible

/-- A file that has been opened can be opened again. -/
theorem openFile_again {path : Path} {create : Bool} {disk after : Disk} {number : Nat}
    (opened : openFile path create disk = .ok number after) :
    openFile path false after = .ok number after := by
  rcases openFile_ok opened with ⟨names, located, ⟨found, same⟩ | ⟨_, free, fresh, same⟩⟩
  · rw [same, openFile_run, located]
    simp [found]
  · rw [same, fresh, openFile_run, locate_mono (grows_withFile disk names).nodes located]
    simp [find_withFile free]

/-- What can be opened can be read. -/
theorem contentsAt_of_openFile {path : Path} {disk : Disk} {number : Nat}
    (opened : openFile path false disk = .ok number disk) :
    disk.contentsAt path = .ok (disk.contents number).toByteArray := by
  rcases openFile_ok opened with ⟨names, located, ⟨found, _⟩ | ⟨impossible, _⟩⟩
  · have node : disk.nodeAt path = .ok (.file number) := by
      rw [nodeAt_run, located]
      simp [found]
    rw [contentsAt, node]
    rfl
  · cases impossible

/-- A file that does not exist is created empty, under a new number. -/
theorem openFile_new {path : Path} {disk created : Disk} {number : Nat} {reason : SystemError}
    (absent : openFile path false disk = .error reason disk)
    (opened : openFile path true disk = .ok number created) :
    number = disk.files.size ∧ (created.contents number).toByteArray = .empty ∧
      openFile path false created = .ok number created := by
  rcases openFile_ok opened with ⟨names, located, ⟨found, _⟩ | ⟨_, free, fresh, same⟩⟩
  · rw [openFile_run, located] at absent
    simp [found] at absent
  · refine ⟨fresh, ?_, openFile_again opened⟩
    rw [same, fresh, contents_withFile]
    exact SparseBytes.toByteArray_ofByteArray _

/-- The path leads to a directory. -/
def LeadsToDirectory (disk : Disk) (path : Path) : Prop :=
  disk.locate path = .ok .directory ∨
    ∃ names asDirectory, disk.locate path = .ok (.name names asDirectory) ∧
      disk.find names = .ok (some .directory)

theorem isDirectory_iff {disk : Disk} {path : Path} :
    disk.isDirectory path = true ↔ disk.LeadsToDirectory path := by
  rw [isDirectory, nodeAt_run, LeadsToDirectory]
  rcases disk.locate path with reason | _ | ⟨names, asDirectory⟩
  · simp
  · simp
  · rcases found : disk.find names with reason | _ | _ | number
    · simp [found]
    · simp [found]
    · simp [found]
    · cases asDirectory <;> simp [found]

/-! ## Creating directories -/

/-- Only a new name is given to a directory. -/
theorem makeDirectory_cases (path : Path) (disk : Disk) :
    (∃ names asDirectory, disk.locate path = .ok (.name names asDirectory) ∧
        disk.find names = .ok none ∧
        makeDirectory path disk = .ok () (disk.withDirectory names)) ∨
      ∃ reason, makeDirectory path disk = .error reason disk := by
  rw [makeDirectory, ask_bind]
  rcases located : disk.locate path with reason | _ | ⟨names, asDirectory⟩
  · exact .inr ⟨reason, rfl⟩
  · exact .inr ⟨.alreadyExists, rfl⟩
  · simp only
    rw [ask_bind]
    rcases found : disk.find names with reason | _ | node
    · exact .inr ⟨reason, rfl⟩
    · exact .inl ⟨names, asDirectory, rfl, found, rfl⟩
    · exact .inr ⟨.alreadyExists, rfl⟩

theorem ensureDirectory_cases (path : Path) (disk : Disk) :
    (∃ after, ensureDirectory path disk = .ok () after ∧ disk.Grows after ∧
        after.LeadsToDirectory path) ∨
      ∃ reason, ensureDirectory path disk = .error reason disk := by
  rw [ensureDirectory]
  rcases makeDirectory_cases path disk with
    ⟨names, asDirectory, located, free, made⟩ | ⟨reason, failed⟩
  · rw [made]
    have grows := grows_withDirectory disk names
    exact .inl ⟨disk.withDirectory names, rfl, grows,
      .inr ⟨names, asDirectory, locate_mono grows.nodes located, find_withDirectory free⟩⟩
  · rw [failed]
    cases directory : disk.isDirectory path with
    | true => exact .inl ⟨disk, by simp [directory], Grows.refl disk, isDirectory_iff.mp directory⟩
    | false => exact .inr ⟨reason, by simp [directory]⟩

theorem ensureDirectory_of_leads {path : Path} {disk : Disk}
    (leads : disk.LeadsToDirectory path) : ensureDirectory path disk = .ok () disk := by
  have directory := isDirectory_iff.mpr leads
  rw [ensureDirectory]
  rcases makeDirectory_cases path disk with
    ⟨names, asDirectory, located, free, _⟩ | ⟨reason, failed⟩
  · exfalso
    rcases leads with stepped | ⟨others, _, otherwise, found⟩
    · rw [located] at stepped
      cases stepped
    · rw [located] at otherwise
      cases otherwise
      rw [free] at found
      cases found
  · simp [failed, directory]

theorem ensureDirectories_cases (depth : Nat) (path : Path) (disk : Disk) :
    (∃ after, ensureDirectories depth path disk = .ok () after ∧ disk.Grows after ∧
        after.LeadsToDirectory path) ∨
      ∃ reason after, ensureDirectories depth path disk = .error reason after ∧
        disk.Grows after := by
  induction depth generalizing path with
  | zero =>
      rw [ensureDirectories]
      rcases ensureDirectory_cases path disk with made | ⟨reason, failed⟩
      · exact .inl made
      · exact .inr ⟨reason, disk, failed, Grows.refl disk⟩
  | succ depth induction =>
      simp only [ensureDirectories]
      rcases ensureDirectory_cases path disk with ⟨after, made, grows, leads⟩ | ⟨reason, failed⟩
      · rw [made]
        exact .inl ⟨after, rfl, grows, leads⟩
      · rw [failed]
        split
        · rename_i reached parent ended named
          cases ended
          split
          · exact .inr ⟨.notFound, disk, rfl, Grows.refl disk⟩
          · rcases induction parent with ⟨middle, made, grows, _⟩ | ⟨other, middle, stopped, grows⟩
            · rw [made]
              rcases ensureDirectory_cases path middle with
                ⟨after, last, further, leads⟩ | ⟨other, stopped⟩
              · exact .inl ⟨after, last, grows.trans further, leads⟩
              · exact .inr ⟨other, middle, stopped, grows⟩
            · rw [stopped]
              exact .inr ⟨other, middle, rfl, grows⟩
        · exact .inr ⟨reason, disk, rfl, Grows.refl disk⟩

theorem ensureDirectories_of_leads (depth : Nat) {path : Path} {disk : Disk}
    (leads : disk.LeadsToDirectory path) :
    ensureDirectories depth path disk = .ok () disk := by
  cases depth with
  | zero => exact ensureDirectory_of_leads leads
  | succ depth => simp only [ensureDirectories, ensureDirectory_of_leads leads]

/-- The directory that a file of this path would be in exists. -/
def HasParent (disk : Disk) (path : Path) : Prop :=
  ∀ parent, path.parent? = some parent → parent.text ≠ "" → disk.LeadsToDirectory parent

/-- Creating the missing parents adds directories, also when it fails half-way. -/
theorem ensureParents_cases (path : Path) (disk : Disk) :
    (∃ after, ensureParents path disk = .ok () after ∧ disk.Grows after ∧
        after.HasParent path) ∨
      ∃ reason after, ensureParents path disk = .error reason after ∧ disk.Grows after := by
  rw [ensureParents]
  cases named : path.parent? with
  | none =>
      refine .inl ⟨disk, rfl, Grows.refl disk, ?_⟩
      intro parent impossible
      rw [named] at impossible
      cases impossible
  | some parent =>
      by_cases here : parent.text = ""
      · simp only [if_pos here]
        refine .inl ⟨disk, rfl, Grows.refl disk, ?_⟩
        intro other same text
        rw [named] at same
        cases same
        exact absurd here text
      · simp only [if_neg here]
        rcases ensureDirectories_cases parent.components.length parent disk with
          ⟨after, made, grows, leads⟩ | failed
        · refine .inl ⟨after, made, grows, ?_⟩
          intro other same _
          rw [named] at same
          cases same
          exact leads
        · exact .inr failed

theorem grows_of_ensureParents {path : Path} {disk after : Disk}
    (ran : ensureParents path disk = .ok () after) : disk.Grows after := by
  rcases ensureParents_cases path disk with ⟨other, made, grows, _⟩ | ⟨_, _, failed, _⟩
  · rw [ran] at made
    cases made
    exact grows
  · rw [ran] at failed
    cases failed

/-- Parents that exist are left alone. -/
theorem ensureParents_of_hasParent {path : Path} {disk : Disk} (has : disk.HasParent path) :
    ensureParents path disk = .ok () disk := by
  rw [ensureParents]
  cases named : path.parent? with
  | none => rfl
  | some parent =>
      by_cases here : parent.text = ""
      · simp only [if_pos here]
        rfl
      · simp only [if_neg here]
        exact ensureDirectories_of_leads _ (has parent named here)

/-! ## Changes from outside -/

theorem locks_writeFile (path : Path) (bytes : ByteArray) (disk : Disk) :
    (finalState (writeFile path bytes disk)).locks = disk.locks := by
  rw [writeFile]
  cases ran : openFile path true disk with
  | ok number opened =>
      rw [bind_of_ok ran]
      exact (grows_of_openFile ran).locks
  | error reason opened =>
      rw [bind_of_error ran, openFile_error ran]
      rfl

theorem locks_deleteFile (path : Path) (disk : Disk) :
    (finalState (deleteFile path disk)).locks = disk.locks := by
  rw [deleteFile, ask_bind]
  rcases disk.nodeAt path with reason | _ | number <;> rfl

theorem locks_makeDirectory (path : Path) (disk : Disk) :
    (finalState (makeDirectory path disk)).locks = disk.locks := by
  rcases makeDirectory_cases path disk with ⟨names, _, _, _, made⟩ | ⟨reason, failed⟩
  · rw [made]
    rfl
  · rw [failed]
    rfl

end Disk

end PackedRecords
