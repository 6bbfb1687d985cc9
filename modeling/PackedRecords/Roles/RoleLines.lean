import PackedRecords.Cache.Codec
import PackedRecords.Text.Split
import PackedRecords.Text.Utf8

/-! # Role lines

A plainer form of an entity's roles: a list with one role per line, where repetition
and order count, and one default made of the baseline.
-/

namespace PackedRecords

/-- Where role lines came from. -/
inductive RoleOrigin where
  | fresh
  | decoded
deriving DecidableEq, Repr

/-- The roles of one entity as lines. -/
structure RoleLines where
  granted : List String
  defaultRole : String
  origin : RoleOrigin
  reconciled : Nat
deriving DecidableEq, Repr

namespace RoleLines

def defaultOf (baseline : List String) : String :=
  joinText ',' baseline

/-- The entity that holds the role `root` from the start. -/
def rootId : EntityId := .replicate 0xFE

/-- The roles of an entity without a record. -/
def fresh (key : EntityId) (baseline : List String) : RoleLines :=
  ⟨if key = rootId then ["root"] else [], defaultOf baseline, .fresh, 0⟩

/-- The lines of a stored payload; no bytes are no lines. -/
def decode (payload : ByteArray) (baseline : List String) : Except StoreError RoleLines :=
  match utf8Text? payload with
  | none => .error (.codec "payload is not UTF-8")
  | some text =>
      .ok ⟨if text = "" then [] else splitText '\n' text, defaultOf baseline, .decoded, 0⟩

def unencodable : String := "!unencodable"

def encode (roles : RoleLines) : Except StoreError ByteArray :=
  if roles.granted.contains unencodable then .error (.codec "unencodable role")
  else .ok (joinText '\n' roles.granted).toUTF8

def reconcile (baseline : List String) (roles : RoleLines) : RoleLines :=
  { roles with defaultRole := defaultOf baseline, reconciled := roles.reconciled + 1 }

def codec : EntryCodec RoleLines (List String) where
  fresh := fresh
  decode _ := decode
  encode := encode
  reconcile _ := reconcile

end RoleLines

end PackedRecords
