/-! # Cache entries

A value held in memory for an entity, with a flag that tells whether it may differ
from what is stored. Changes made through `modify` set the flag, changes made through
`modifyUntracked` do not.
-/

namespace PackedRecords

/-- A value and whether it must be written back before it is given up. -/
structure Entry (V : Type) where
  value : V
  dirty : Bool
deriving DecidableEq, Inhabited

namespace Entry

variable {V : Type}

def clean (value : V) : Entry V :=
  ⟨value, false⟩

def modify (change : V → V) (entry : Entry V) : Entry V :=
  ⟨change entry.value, true⟩

def modifyUntracked (change : V → V) (entry : Entry V) : Entry V :=
  ⟨change entry.value, entry.dirty⟩

def markDirty (entry : Entry V) : Entry V :=
  ⟨entry.value, true⟩

def markClean (entry : Entry V) : Entry V :=
  ⟨entry.value, false⟩

end Entry

/-- A value looked up without changing anything: the live value of an active entity,
or one loaded for this occasion only. -/
inductive Peeked (V : Type) where
  | active (value : V)
  | transient (value : V)
deriving DecidableEq

namespace Peeked

variable {V : Type}

def isActive : Peeked V → Bool
  | active _ => true
  | transient _ => false

def value : Peeked V → V
  | active value => value
  | transient value => value

end Peeked

end PackedRecords
