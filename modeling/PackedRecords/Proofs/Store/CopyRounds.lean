import PackedRecords.Proofs.Store.Planned

/-! # Rounds of copying

A shift copies the tail of a device in rounds: each reads a chunk that fits into the buffer
and writes it to its new place. There are as many rounds as the buffer goes into the tail,
and together they read every byte of the tail once, before anything is written over it.
-/

namespace PackedRecords

/-- A chunk that is copied, with its new place. -/
structure CopyRound where
  origin : Nat
  target : Nat
  length : Nat
deriving DecidableEq

namespace CopyRound

def run {δ : Type} [ByteDevice δ] (round : CopyRound) : DeviceM δ Unit :=
  copyChunk round.origin round.target round.length

def calls (round : CopyRound) : List TracedCall :=
  [.readInto round.origin round.length, .writeAt round.target round.length]

/-- The positions that are read. -/
def reads (round : CopyRound) : Finset Nat :=
  Finset.Ico round.origin (round.origin + round.length)

/-- The positions that are written. -/
def writes (round : CopyRound) : Finset Nat :=
  Finset.Ico round.target (round.target + round.length)

end CopyRound

/-! ## Rounds that copy a range -/

/-- The rounds copy the `length` bytes from `source` on, each of them once, by `delta`. No
round reads what an earlier one has written. -/
structure CopiesOnce (buffer source length : Nat) (delta : Int) (rounds : List CopyRound) :
    Prop where
  number : rounds.length = length ⌈/⌉ buffer
  chunks : ∀ round ∈ rounds, 1 ≤ round.length ∧ round.length ≤ buffer
  moved : ∀ round ∈ rounds, (round.target : Int) = round.origin + delta
  covered : ∀ position, (∃ round ∈ rounds, position ∈ round.reads) ↔
    source ≤ position ∧ position < source + length
  apart : rounds.Pairwise fun earlier later => Disjoint earlier.reads later.reads
  falling : 0 < delta → rounds.Pairwise fun earlier later => later.origin < earlier.origin
  rising : delta < 0 → rounds.Pairwise fun earlier later => earlier.origin < later.origin
  fresh : rounds.Pairwise fun earlier later => Disjoint earlier.writes later.reads

/-- A chunk that fills the buffer, or is all there is, makes one round. -/
theorem ceilDiv_sub_min {buffer length : Nat} (positive : 0 < buffer) (something : length ≠ 0) :
    length ⌈/⌉ buffer = (length - min length buffer) ⌈/⌉ buffer + 1 := by
  rw [Nat.ceilDiv_eq_add_pred_div, Nat.ceilDiv_eq_add_pred_div]
  by_cases fits : length ≤ buffer
  · have last : (length + buffer - 1) / buffer = 1 :=
      Nat.div_eq_of_lt_le (by omega) (by omega)
    have done : (length - min length buffer + buffer - 1) / buffer = 0 :=
      Nat.div_eq_of_lt (by omega)
    rw [last, done]
  · have room : length + buffer - 1 = length - min length buffer + buffer - 1 + buffer := by
      omega
    rw [room, Nat.add_div_right _ positive]

namespace CopiesOnce

variable {buffer source rest length : Nat} {delta : Int} {round : CopyRound}
  {rounds : List CopyRound}

theorem nil : CopiesOnce buffer source 0 delta [] where
  number := (zero_ceilDiv buffer).symm
  chunks := List.forall_mem_nil _
  moved := List.forall_mem_nil _
  covered position := by
    simp only [List.not_mem_nil, false_and, exists_false, false_iff]
    omega
  apart := .nil
  falling _ := .nil
  rising _ := .nil
  fresh := .nil

/-- A round reads within the range. -/
theorem within (copies : CopiesOnce buffer source length delta rounds)
    (member : round ∈ rounds) :
    source ≤ round.origin ∧ round.origin + round.length ≤ source + length := by
  have some := (copies.chunks round member).1
  have first := (copies.covered round.origin).mp
    ⟨round, member, Finset.mem_Ico.mpr (by omega)⟩
  have last := (copies.covered (round.origin + round.length - 1)).mp
    ⟨round, member, Finset.mem_Ico.mpr (by omega)⟩
  omega

/-- The end of the range in front of which the bytes go is copied first. -/
theorem cons (copies : CopiesOnce buffer rest (length - round.length) delta rounds)
    (positive : 0 < buffer) (something : length ≠ 0)
    (chunk : round.length = min length buffer) (moved : (round.target : Int) = round.origin + delta)
    (place : 0 < delta ∧ rest = source ∧ round.origin = source + (length - round.length) ∨
      delta < 0 ∧ rest = source + round.length ∧ round.origin = source) :
    CopiesOnce buffer source length delta (round :: rounds) where
  number := by
    rw [List.length_cons, copies.number, ceilDiv_sub_min positive something, chunk]
  chunks := List.forall_mem_cons.mpr ⟨by omega, copies.chunks⟩
  moved := List.forall_mem_cons.mpr ⟨moved, copies.moved⟩
  covered position := by
    rw [List.exists_mem_cons_iff, copies.covered, CopyRound.reads, Finset.mem_Ico]
    omega
  apart := by
    refine List.Pairwise.cons (fun later member => ?_) copies.apart
    have inside := copies.within member
    simp only [CopyRound.reads, Finset.disjoint_left, Finset.mem_Ico]
    omega
  falling up := by
    refine List.Pairwise.cons (fun later member => ?_) (copies.falling up)
    have inside := copies.within member
    have some := (copies.chunks later member).1
    omega
  rising down := by
    refine List.Pairwise.cons (fun later member => ?_) (copies.rising down)
    have inside := copies.within member
    omega
  fresh := by
    -- The chunk moves away from what is left, so its new place can meet its own old one only.
    refine List.Pairwise.cons (fun later member => ?_) copies.fresh
    have inside := copies.within member
    simp only [CopyRound.reads, CopyRound.writes, Finset.disjoint_left, Finset.mem_Ico]
    omega

end CopiesOnce

/-! ## The two directions -/

/-- The rounds that copy `remaining` bytes up by `distance`. -/
def upRounds (buffer : Nat) (positive : 0 < buffer) (source distance remaining : Nat) :
    List CopyRound :=
  if remaining = 0 then []
  else
    let chunk := min remaining buffer
    let front := source + (remaining - chunk)
    ⟨front, front + distance, chunk⟩ ::
      upRounds buffer positive source distance (remaining - chunk)
termination_by remaining

/-- The rounds that copy `remaining` bytes down by `distance`. -/
def downRounds (buffer : Nat) (positive : 0 < buffer) (source distance remaining : Nat) :
    List CopyRound :=
  if remaining = 0 then []
  else
    let chunk := min remaining buffer
    ⟨source, source - distance, chunk⟩ ::
      downRounds buffer positive (source + chunk) distance (remaining - chunk)
termination_by remaining

section Directions

variable (buffer : Nat) (positive : 0 < buffer) (source distance remaining : Nat)

theorem copyUp_eq {δ : Type} [ByteDevice δ] :
    (copyUp buffer positive source distance remaining : DeviceM δ Unit) =
      (upRounds buffer positive source distance remaining).forM CopyRound.run := by
  fun_induction upRounds buffer positive source distance remaining with
  | case1 =>
      rw [copyUp]
      rfl
  | case2 remaining something chunk front induction =>
      rw [copyUp, if_neg something]
      change _ = CopyRound.run _ >>= fun _ => List.forM _ CopyRound.run
      rw [← induction]
      rfl

theorem copyDown_eq {δ : Type} [ByteDevice δ] :
    (copyDown buffer positive source distance remaining : DeviceM δ Unit) =
      (downRounds buffer positive source distance remaining).forM CopyRound.run := by
  fun_induction downRounds buffer positive source distance remaining with
  | case1 =>
      rw [copyDown]
      rfl
  | case2 source remaining something chunk induction =>
      rw [copyDown, if_neg something]
      change _ = CopyRound.run _ >>= fun _ => List.forM _ CopyRound.run
      rw [← induction]
      rfl

theorem copyUpCalls_eq :
    copyUpCalls buffer positive source distance remaining =
      (upRounds buffer positive source distance remaining).flatMap CopyRound.calls := by
  fun_induction upRounds buffer positive source distance remaining with
  | case1 =>
      rw [copyUpCalls]
      rfl
  | case2 remaining something chunk front induction =>
      rw [copyUpCalls, if_neg something, List.flatMap_cons, ← induction]
      rfl

theorem copyDownCalls_eq :
    copyDownCalls buffer positive source distance remaining =
      (downRounds buffer positive source distance remaining).flatMap CopyRound.calls := by
  fun_induction downRounds buffer positive source distance remaining with
  | case1 =>
      rw [copyDownCalls]
      rfl
  | case2 source remaining something chunk induction =>
      rw [copyDownCalls, if_neg something, List.flatMap_cons, ← induction]
      rfl

variable {distance}

theorem copiesOnce_upRounds (moves : 0 < distance) :
    CopiesOnce buffer source remaining distance
      (upRounds buffer positive source distance remaining) := by
  fun_induction upRounds buffer positive source distance remaining with
  | case1 => exact .nil
  | case2 remaining something chunk front induction =>
      exact induction.cons positive something rfl (Int.natCast_add front distance)
        (.inl ⟨by omega, rfl, rfl⟩)

theorem copiesOnce_downRounds (moves : 0 < distance) (room : distance ≤ source) :
    CopiesOnce buffer source remaining (-distance)
      (downRounds buffer positive source distance remaining) := by
  fun_induction downRounds buffer positive source distance remaining with
  | case1 => exact .nil
  | case2 source remaining something chunk induction =>
      have moved : ((source - distance : Nat) : Int) = source + -distance := by omega
      exact (induction (by omega)).cons positive something rfl moved (.inr ⟨by omega, rfl, rfl⟩)

end Directions

/-! ## Shifts -/

section Moves

variable {buffer : Nat} {positive : 0 < buffer} {size source distance : Nat}

theorem moveCalls_up (moves : 0 < distance) :
    moveCalls buffer positive size source distance =
      .extend distance ::
        (upRounds buffer positive source distance (size - source)).flatMap CopyRound.calls := by
  cases distance with
  | zero => omega
  | succ below =>
      rw [← copyUpCalls_eq]
      rfl

theorem moveCalls_down (moves : 0 < distance) :
    moveCalls buffer positive size source (-distance) =
      (downRounds buffer positive source distance (size - source)).flatMap CopyRound.calls ++
        [.truncate (size - distance)] := by
  cases distance with
  | zero => omega
  | succ below =>
      rw [← copyDownCalls_eq]
      rfl

end Moves

namespace Store

variable {δ : Type} [ByteDevice δ] [FaithfulDevice δ] {store : Store (Logged δ)} {source : Nat}
  {delta : Int} {made : List LoggedCall}

/-- A shift whose calls are all served comes to its end, with the calls that move the tail. -/
theorem shiftAfter_served (sound : FaithfulDevice.Sound store.device)
    (inside : source ≤ (FaithfulDevice.contents store.device).size)
    (logged : (finalState (shiftAfter source delta store)).device.log = store.device.log ++ made)
    (served : ∀ entry ∈ made, entry.served = true) :
    (∃ after, shiftAfter source delta store =
        .ok ((FaithfulDevice.contents store.device).size - source) after) ∧
      made = (TracedCall.size :: store.inMemory.tailCalls source delta).map TracedCall.served := by
  have plan : store.inMemory.shiftPlan source delta =
      (TracedCall.size :: store.inMemory.tailCalls source delta).map .call ++
        [.reindex (·.shiftFrom source delta)] := by
    have within : ¬store.inMemory.device.bytes.size < source := Nat.not_lt_of_le inside
    rw [shiftPlan, movePlan, if_neg within]
    rfl
  rcases carriesOut_shiftAfter sound source delta with ⟨_, log, own, carried⟩
  have same : log = made := List.append_cancel_left (own.symm.trans logged)
  rw [plan, same] at carried
  rcases carried.of_served served with ⟨ended, calls, _⟩
  rw [PlanStep.accepts_append, PlanStep.accepts_map_call] at ended
  rw [PlanStep.calls_append, PlanStep.accepts_map_call, PlanStep.calls_map_call] at calls
  rcases exists_of_succeeds ended with ⟨moved, after, ran⟩
  have length := (shiftAfter_ok sound ran).2
  refine ⟨⟨after, ran.trans (congrArg (EStateM.Result.ok · after) length)⟩, calls.trans ?_⟩
  exact congrArg (List.map TracedCall.served) (List.append_nil _)

/-- A shift whose calls are all served copies the tail in rounds, whatever the size of the
buffer in the settings: no calls but those of the rounds come between the growth of the device
and its end, or the look at its size and the truncation. The loop that copies is these rounds
one after another, each of which writes the bytes that it has read. -/
theorem shift_rounds (sound : FaithfulDevice.Sound store.device)
    (inside : source ≤ (FaithfulDevice.contents store.device).size) (moves : delta ≠ 0)
    (target : 0 ≤ source + delta)
    (logged : (finalState (shiftAfter source delta store)).device.log = store.device.log ++ made)
    (served : ∀ entry ∈ made, entry.served = true) :
    let size := (FaithfulDevice.contents store.device).size
    let length := size - source
    (∃ after, shiftAfter source delta store = .ok length after) ∧
      ∃ rounds : List CopyRound,
        CopiesOnce (max 1 store.config.shiftBufferSize) source length delta rounds ∧
        (∀ distance : Nat, delta = distance →
          made = (.size :: .extend distance :: rounds.flatMap CopyRound.calls).map
              TracedCall.served ∧
            (copyUp store.config.shiftBufferLength store.config.shiftBufferLength_pos source
              distance length : DeviceM (Logged δ) Unit) = rounds.forM CopyRound.run) ∧
        ∀ distance : Nat, delta = -distance →
          made = (.size :: (rounds.flatMap CopyRound.calls ++
              [.truncate (size - distance)])).map TracedCall.served ∧
            (copyDown store.config.shiftBufferLength store.config.shiftBufferLength_pos source
              distance length : DeviceM (Logged δ) Unit) = rounds.forM CopyRound.run := by
  intro size length
  let buffer := store.config.shiftBufferLength
  let positive := store.config.shiftBufferLength_pos
  have clamped : max 1 store.config.shiftBufferSize = buffer := Nat.max_comm ..
  rcases shiftAfter_served sound inside logged served with ⟨ran, calls⟩
  rw [clamped]
  refine ⟨ran, ?_⟩
  rcases Int.lt_or_lt_of_ne moves with shrinking | growing
  · rcases Int.exists_eq_neg_ofNat (Int.le_of_lt shrinking) with ⟨distance, rfl⟩
    have something : 0 < distance := by omega
    refine ⟨downRounds buffer positive source distance length,
      copiesOnce_downRounds buffer positive source length something (by omega), ?_, ?_⟩
    · intro other same
      omega
    · intro other same
      have sameDistance : distance = other := by omega
      subst sameDistance
      refine ⟨calls.trans ?_, copyDown_eq buffer positive source distance length⟩
      rw [tailCalls, moveCalls_down something]
      rfl
  · rcases Int.eq_ofNat_of_zero_le (Int.le_of_lt growing) with ⟨distance, rfl⟩
    have something : 0 < distance := by omega
    refine ⟨upRounds buffer positive source distance length,
      copiesOnce_upRounds buffer positive source length something, ?_, ?_⟩
    · intro other same
      cases Int.ofNat.inj same
      refine ⟨calls.trans ?_, copyUp_eq buffer positive source distance length⟩
      rw [tailCalls, moveCalls_up something]
      rfl
    · intro other same
      omega

/-- Three bytes go up by one through a buffer of two bytes, so each of the two chunks is
written partly over itself. -/
theorem shift_rounds_overlapping :
    let store : Store (Logged Memory) :=
      ⟨⟨⟨⟨#[1, 2, 3, 4, 5]⟩⟩, []⟩, ∅, { shiftBufferSize := 2 }, {}, true⟩
    let made : List LoggedCall :=
      [.size, .extend 1, .readInto 3 2, .writeAt 4 2, .readInto 2 1, .writeAt 3 1].map
        TracedCall.served
    (finalState (shiftAfter 2 1 store)).device = ⟨⟨⟨#[1, 2, 3, 3, 4, 5]⟩⟩, made⟩ ∧
      (∀ entry ∈ made, entry.served = true) ∧
      (∃ after, shiftAfter 2 1 store = .ok 3 after) ∧
      ∃ rounds, CopiesOnce 2 2 3 1 rounds ∧
        made = (.size :: .extend 1 :: rounds.flatMap CopyRound.calls).map TracedCall.served := by
  intro store made
  have device : (finalState (shiftAfter 2 1 store)).device = ⟨⟨⟨#[1, 2, 3, 3, 4, 5]⟩⟩, made⟩ := by
    decide +kernel
  have inside : 2 ≤ (FaithfulDevice.contents store.device).size := by decide +kernel
  have served : ∀ entry ∈ made, entry.served = true := by decide
  have logged := congrArg Logged.log device
  rcases shift_rounds trivial inside Int.one_ne_zero (by decide) logged served with
    ⟨ran, rounds, copies, growing, _⟩
  exact ⟨device, served, ran, rounds, copies, (growing 1 rfl).1⟩

end Store

end PackedRecords
