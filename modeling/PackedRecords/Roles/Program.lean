import PackedRecords.Cache.Entry
import PackedRecords.Roles.RoleLines
import PackedRecords.Roles.RoleSet

/-! # Programs on entries

Short programs that grant and revoke roles on a cache entry and look at it, the same
for every kind of value that holds roles.
-/

namespace PackedRecords

/-- Values that hold roles. -/
class RoleHolder (V : Type) where
  grant : String → V → V
  revoke : String → V → V
  has : V → String → Bool
  /-- The number of roles granted. -/
  count : V → Nat

instance : RoleHolder RoleSet where
  grant := RoleSet.grant
  revoke := RoleSet.revoke
  has := RoleSet.has
  count roles := roles.granted.size

instance : RoleHolder RoleLines where
  grant role roles := { roles with granted := roles.granted ++ [role] }
  revoke role roles := { roles with granted := roles.granted.filter (· ≠ role) }
  has roles role := roles.granted.contains role
  count roles := roles.granted.length

/-- One step of a program. -/
inductive RoleStep where
  | grant (role : String)
  | grantUntracked (role : String)
  | revoke (role : String)
  | touch
  | markDirty
  | isDirty
  | has (role : String)
  | count
  | value
deriving DecidableEq, Repr

/-- What a step answers. -/
inductive RoleAnswer (V : Type) where
  | done
  | flag (holds : Bool)
  | number (count : Nat)
  | value (value : V)
deriving DecidableEq

namespace RoleStep

variable {V : Type} [RoleHolder V]

def run (step : RoleStep) (entry : Entry V) : RoleAnswer V × Entry V :=
  match step with
  | grant role => (.done, entry.modify (RoleHolder.grant role))
  | grantUntracked role => (.done, entry.modifyUntracked (RoleHolder.grant role))
  | revoke role => (.done, entry.modify (RoleHolder.revoke role))
  | touch => (.done, entry.modify id)
  | markDirty => (.done, entry.markDirty)
  | isDirty => (.flag entry.dirty, entry)
  | has role => (.flag (RoleHolder.has entry.value role), entry)
  | count => (.number (RoleHolder.count entry.value), entry)
  | value => (.value entry.value, entry)

def runAll : List RoleStep → Entry V → List (RoleAnswer V) × Entry V
  | [], entry => ([], entry)
  | step :: steps, entry =>
      let (answer, entry) := step.run entry
      let (answers, entry) := runAll steps entry
      (answer :: answers, entry)

end RoleStep

end PackedRecords
