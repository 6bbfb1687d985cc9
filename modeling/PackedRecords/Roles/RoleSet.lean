import PackedRecords.Cache.Codec
import PackedRecords.Cbor.Item
import PackedRecords.EntityId.Text
import Std.Data.ExtTreeSet

/-! # Role sets

An entity's roles: those granted to it, which are stored, and those that the baseline
gives to everybody, which are not. The stored form is a map with the granted roles, in
ascending order, under the one key `granted`.
-/

namespace PackedRecords

/-- Names of roles, without order or repetition. -/
abbrev RoleNames := Std.ExtTreeSet String

/-- The roles of one entity, and how often they have been brought in line with a
baseline, counted in 32 bits. -/
structure RoleSet where
  granted : RoleNames
  defaults : RoleNames
  alignments : UInt32
deriving DecidableEq

namespace RoleSet

/-- How often the roles have been brought in line with a baseline, as a number. -/
def reconciled (roles : RoleSet) : Nat :=
  roles.alignments.toNat

/-- The roles of an entity without a record. -/
def fresh (baseline : List String) : RoleSet :=
  ⟨∅, .ofList baseline, 0⟩

def reconcile (baseline : List String) (roles : RoleSet) : RoleSet :=
  ⟨roles.granted, .ofList baseline, roles.alignments + 1⟩

/-- Whether the entity holds a role, granted or by default. -/
def has (roles : RoleSet) (role : String) : Bool :=
  roles.granted.contains role || roles.defaults.contains role

def grant (role : String) (roles : RoleSet) : RoleSet :=
  { roles with granted := roles.granted.insert role }

def revoke (role : String) (roles : RoleSet) : RoleSet :=
  { roles with granted := roles.granted.erase role }

/-! ## The stored form -/

def grantedKey : String := "granted"

def encodeGranted (granted : RoleNames) : List UInt8 :=
  Cbor.encodeMapHead 1 ++ Cbor.encodeText grantedKey ++
    Cbor.encodeArrayHead granted.size ++ granted.toList.flatMap Cbor.encodeText

/-- The granted roles among the pairs of a map; `found` are those read so far. Pairs
with other keys are passed over, and a second pair with this key is refused. -/
def readPairs? (left : Option Nat) (found : Option (List String)) (input : List UInt8) :
    Option (List String) :=
  match Cbor.progress left input with
  | .ended _ => found
  | .more left =>
      match _key : Cbor.readKey? input with
      | none => none
      | some (key, rest) =>
          if key = grantedKey.toUTF8.data.toList then
            if found.isSome then none
            else
              match _texts : Cbor.readTexts? rest with
              | none => none
              | some (texts, rest) => readPairs? left (some texts) rest
          else
            match _skipped : Cbor.skipItem? rest with
            | none => none
            | some rest => readPairs? left found rest
termination_by input.length
decreasing_by
  · exact Nat.lt_of_le_of_lt (Cbor.length_of_readTexts? _texts) (Cbor.length_of_readKey? _key)
  · exact Nat.lt_of_le_of_lt (Cbor.length_of_skipItem? _skipped) (Cbor.length_of_readKey? _key)

/-- The granted roles of a stored form. Whatever follows the map is not looked at. -/
def decodeGranted? (input : List UInt8) : Option (List String) :=
  match Cbor.readUntagged? input with
  | some (.map length, rest) => readPairs? length none rest
  | _ => none

/-- The role set of a stored payload, in line with the baseline. -/
def decode (key : EntityId) (payload : ByteArray) (baseline : List String) :
    Except StoreError RoleSet :=
  match decodeGranted? payload.data.toList with
  | some granted => .ok (reconcile baseline ⟨.ofList granted, ∅, 0⟩)
  | none => .error (.codec ("decoding " ++ key.toText ++ ": not a stored role set"))

def codec : EntryCodec RoleSet (List String) where
  fresh _ := fresh
  decode := decode
  encode roles := .ok ⟨(encodeGranted roles.granted).toArray⟩
  reconcile _ := reconcile

end RoleSet

end PackedRecords
