import PackedRecords.Command.Basic
import PackedRecords.Proofs.Report.FileVerification
import PackedRecords.Proofs.Report.Readback
import PackedRecords.Proofs.Store.Served
import PackedRecords.Proofs.Text.LossyText

/-! # What commands report about a map of payloads

A reader of the program's output sees a map of payloads and the file that it is packed
into. Each command changes the map as an operation on maps does and prints what the map
and the file have. What a listing, a summary or a payload is printed as is read back.
-/

namespace PackedRecords

/-! ## Listings and summaries -/

/-- Entries of records that follow each other without gaps up to a place. -/
def PackedUpTo (stop : Nat) : Nat → List RecordInfo → Prop
  | start, [] => start = stop
  | start, info :: rest => info.offset = start ∧ PackedUpTo stop info.recordEnd rest

/-- The entries are those of the map, in the order in which their records stand in the
bytes. -/
structure ListingOf (payloads : PayloadMap) (bytes : ByteArray) (entries : List RecordInfo) :
    Prop where
  keys : (entries.map RecordInfo.key).Perm payloads.keys
  packed : PackedUpTo bytes.size 0 entries
  recorded : ∀ info ∈ entries, ∃ payload, payloads[info.key]? = some payload ∧
    info.length.toNat = payload.size ∧
    bytes.extract info.offset info.recordEnd = Record.encode ⟨info.key, payload⟩

/-- The sizes of the payloads, in the order of their keys. -/
def PayloadMap.sizes (payloads : PayloadMap) : List Nat :=
  payloads.toList.map fun entry => entry.2.size

/-- The totals are those of the map and of the bytes. -/
structure SummaryOf (path : Path) (payloads : PayloadMap) (bytes : ByteArray)
    (totals : Summary) : Prop where
  path : totals.path = path
  fileSize : totals.fileSize = bytes.size
  recordCount : totals.recordCount = payloads.size
  payloadBytes : totals.payloadBytes = payloads.sizes.sum
  largest : totals.largest? = payloads.sizes.max?
  balance : totals.payloadBytes + totals.headerBytes = totals.fileSize

/-! ## Commands -/

namespace Command

/-- The text shows the payload: hexadecimal digits show all of its bytes, and otherwise it
is the text that they encode, if they encode one. -/
def ShowsPayload (asHex : Bool) (payload : ByteArray) (text : String) : Prop :=
  match asHex with
  | true => Hex.toList? text.toList = some payload.data.toList
  | false => ∀ encoded : String, encoded.toUTF8 = payload → text = encoded

theorem showsPayload (asHex : Bool) (payload : ByteArray) :
    ShowsPayload asHex payload (if asHex then Hex.ofBytes payload else lossyText payload) := by
  cases asHex with
  | true =>
      rw [ShowsPayload, if_pos rfl, Hex.toList_ofBytes]
      exact Hex.toList?_ofList _
  | false =>
      rintro encoded rfl
      exact lossyText_toUTF8 encoded

/-- The payloads after a command; there are none while there is no file. -/
def apply : Command → Option PayloadMap → Option PayloadMap
  | put key payload, payloads? =>
      let payloads := payloads?.getD ∅
      some (if maxPayloadSize < payload.size then payloads else payloads.insert key payload)
  | remove key, payloads? => payloads?.map (·.erase key)
  | _, payloads? => payloads?

/-- What a command prints about the payloads that it finds, and how it fails. The bytes
are those of the file. -/
def Reports (path : Path) (payloads : PayloadMap) (bytes : ByteArray) (command : Command)
    (transcript : Transcript) : Prop :=
  match command with
  | put key payload =>
      transcript =
        if maxPayloadSize < payload.size then
          ⟨"", some (.store (.payloadTooLarge payload.size maxPayloadSize))⟩
        else
          ⟨(if key ∈ payloads then "Updated " else "Created ") ++ key.toText ++ " (" ++
            toString payload.size ++ " bytes)\n", none⟩
  | get key asHex =>
      match payloads[key]? with
      | some payload =>
          ∃ text, text = (if asHex then Hex.ofBytes payload else lossyText payload) ∧
            transcript = ⟨text ++ "\n", none⟩ ∧ ShowsPayload asHex payload text
      | none => transcript = ⟨"", some (.noRecord key)⟩
  | remove key =>
      transcript =
        ⟨(if key ∈ payloads then "Removed " else "No record for ") ++ key.toText ++ "\n", none⟩
  | list format =>
      ∃ entries, transcript = ⟨Listing.render format entries, none⟩ ∧
        Listing.read? format transcript.output = some entries ∧
        ListingOf payloads bytes entries
  | inspect format =>
      ∃ totals, transcript = ⟨totals.render format, none⟩ ∧
        totals.Shows format transcript.output ∧
        SummaryOf path payloads bytes totals
  | verify =>
      transcript =
        ⟨heading path verify ++ (Verification.clean payloads.size bytes.size).toText, none⟩

end Command

/-! ## Records of distinct keys -/

/-- The entries of records that are laid out from `start` on. -/
def entriesFrom (start : Nat) : List Record → List RecordInfo
  | [] => []
  | record :: rest =>
      ⟨record.key, start, UInt32.ofNat record.payload.size⟩ ::
        entriesFrom (start + record.size) rest

/-- Of distinct keys in use every record is listed. -/
theorem listingFrom_eq_entriesFrom {live : Std.ExtTreeSet EntityId compare}
    {records : List Record} (distinct : (keysOf records).Nodup)
    (used : ∀ key ∈ keysOf records, key ∈ live) (start : Nat) :
    Ledger.listingFrom live start records = entriesFrom start records := by
  induction records generalizing start with
  | nil => rfl
  | cons record rest induction =>
      rw [keysOf_cons] at distinct used
      rcases List.nodup_cons.mp distinct with ⟨last, restDistinct⟩
      rcases List.forall_mem_cons.mp used with ⟨inUse, restUsed⟩
      rw [Ledger.listingFrom, if_pos ⟨inUse, last⟩, induction restDistinct restUsed, entriesFrom]

theorem map_key_entriesFrom (start : Nat) (records : List Record) :
    (entriesFrom start records).map RecordInfo.key = keysOf records := by
  induction records generalizing start with
  | nil => rfl
  | cons record rest induction => rw [entriesFrom, List.map_cons, induction, keysOf_cons]

section Within

variable {records : List Record} (within : AllWithin maxPayloadSize records)
include within

theorem map_length_entriesFrom (start : Nat) :
    (entriesFrom start records).map (fun info => info.length.toNat) =
      records.map fun record => record.payload.size := by
  induction records generalizing start with
  | nil => rfl
  | cons record rest induction =>
      rcases List.forall_mem_cons.mp within with ⟨short, restShort⟩
      rw [entriesFrom, List.map_cons, List.map_cons, induction restShort,
        Record.toNat_length short]

theorem packedUpTo_entriesFrom (start : Nat) :
    PackedUpTo (start + (image records).size) start (entriesFrom start records) := by
  induction records generalizing start with
  | nil => simp [entriesFrom, PackedUpTo, image_nil]
  | cons record rest induction =>
      rcases List.forall_mem_cons.mp within with ⟨short, restShort⟩
      have later := induction restShort (start + record.size)
      have recordEnd : RecordInfo.recordEnd ⟨record.key, start,
          UInt32.ofNat record.payload.size⟩ = start + record.size := by
        rw [RecordInfo.recordEnd, Record.toNat_length short, Record.size_eq, Nat.add_assoc]
      rw [entriesFrom, size_image_cons, PackedUpTo, recordEnd, ← Nat.add_assoc]
      exact ⟨rfl, later⟩

end Within

theorem max?_of_perm {first second : List Nat} (perm : first.Perm second) :
    first.max? = second.max? := by
  apply Option.ext
  intro largest
  simp only [List.max?_eq_some_iff, perm.mem_iff]

theorem size_image_eq_sum (records : List Record) :
    (image records).size =
      (records.map fun record => record.payload.size).sum + records.length * headerSize := by
  induction records with
  | nil => rfl
  | cons record rest induction =>
      rw [size_image_cons, induction, Record.size_eq, List.map_cons, List.sum_cons,
        List.length_cons, Nat.add_mul]
      omega

section Agreeing

variable {payloads : PayloadMap} {records : List Record}
  (agrees : payloads.Agrees (.ofRecords records)) (distinct : (keysOf records).Nodup)
include agrees distinct

theorem entries_perm :
    payloads.toList.Perm (records.map fun record => (record.key, record.payload)) :=
  agrees.toList_perm fun key => Ledger.unshadowed_ofRecords (List.nodup_iff_count.mp distinct key)

theorem size_eq_length : payloads.size = records.length := by
  rw [← Std.ExtTreeMap.length_toList, (entries_perm agrees distinct).length_eq, List.length_map]

theorem sizes_perm : payloads.sizes.Perm (records.map fun record => record.payload.size) := by
  have perm := (entries_perm agrees distinct).map fun entry => entry.2.size
  rwa [List.map_map] at perm

theorem size_image_eq : (image records).size = payloads.packedSize :=
  (agrees.packedSize_eq fun key =>
    Ledger.unshadowed_ofRecords (List.nodup_iff_count.mp distinct key)).symm

variable (within : AllWithin maxPayloadSize records)
include within

/-- The listing of records with distinct keys is one of their map. -/
theorem listingOf_listing :
    ListingOf payloads (image records) (Ledger.ofRecords records).listing := by
  have listed : (Ledger.ofRecords records).listing = entriesFrom 0 records :=
    listingFrom_eq_entriesFrom distinct (fun _ => Ledger.mem_live_ofRecords.mpr) 0
  constructor
  · have perm := (entries_perm agrees distinct).map Prod.fst
    rw [Std.ExtTreeMap.map_fst_toList_eq_keys, List.map_map] at perm
    rw [listed, map_key_entriesFrom]
    exact perm.symm
  · have packed := packedUpTo_entriesFrom within 0
    rw [listed]
    rwa [Nat.zero_add] at packed
  · intro info member
    rcases Ledger.mem_listingFrom.mp member with ⟨before, record, after, split, _, last, rfl⟩
    have split : records = before ++ record :: after := split
    have length := Record.toNat_length (within record (by rw [split]; simp))
    refine ⟨record.payload, ?_, length, ?_⟩
    · rw [agrees, Ledger.payload?_ofRecords, split]
      exact lastPayload?_split rfl last
    · have place := extract_middle (image before) record.encode (image after)
      rw [Record.size_encode, Record.size_eq] at place
      rw [RecordInfo.recordEnd, length, Nat.zero_add, split, image_split, Nat.add_assoc]
      exact place

theorem summaryOf_listing (path : Path) :
    SummaryOf path payloads (image records)
      (.ofRecords path (image records).size (Ledger.ofRecords records).listing) := by
  have listed : (Ledger.ofRecords records).listing = entriesFrom 0 records :=
    listingFrom_eq_entriesFrom distinct (fun _ => Ledger.mem_live_ofRecords.mpr) 0
  have lengths := map_length_entriesFrom within 0
  have sizes := sizes_perm agrees distinct
  have count : (entriesFrom 0 records).length = records.length := by
    rw [← List.length_map, map_key_entriesFrom, keysOf, List.length_map]
  have sum : (records.map fun record => record.payload.size).foldl (· + ·) 0 =
      (records.map fun record => record.payload.size).sum := List.sum_eq_foldl.symm
  rw [listed, Summary.ofRecords, lengths, count]
  constructor
  · rfl
  · rfl
  · exact (size_eq_length agrees distinct).symm
  · exact sum.trans sizes.sum_nat.symm
  · exact (max?_of_perm sizes).symm
  · rw [size_image_eq_sum]
    exact congrArg (· + _) sum

end Agreeing

end PackedRecords
