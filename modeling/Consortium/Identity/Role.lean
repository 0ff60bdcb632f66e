import Consortium.Ordered.Set

/-!
Permissions and roles. A role is a named bundle of permissions that a membership may hold.
-/

namespace Consortium

open Std

inductive Permission where
  | activateMembership
  | suspendMembership
  | revokeMembership
  | modifyRoles
  | modifyBusinessIdentity
  | modifyGroups
deriving DecidableEq

namespace Permission

def all : List Permission :=
  [.activateMembership, .suspendMembership, .revokeMembership, .modifyRoles,
    .modifyBusinessIdentity, .modifyGroups]

def rank : Permission → Nat
  | .activateMembership => 0
  | .suspendMembership => 1
  | .revokeMembership => 2
  | .modifyRoles => 3
  | .modifyBusinessIdentity => 4
  | .modifyGroups => 5

def name : Permission → String
  | .activateMembership => "CanActivateMembership"
  | .suspendMembership => "CanSuspendMembership"
  | .revokeMembership => "CanRevokeMembership"
  | .modifyRoles => "CanModifyRoles"
  | .modifyBusinessIdentity => "CanModifyBusinessIdentity"
  | .modifyGroups => "CanModifyGroups"

def ofName? (text : String) : Option Permission := all.find? fun permission => permission.name = text

instance : Ord Permission := ⟨compareOn rank⟩

instance : TransOrd Permission := inferInstanceAs (TransCmp (compareOn rank))

instance : LawfulEqOrd Permission :=
  lawfulEqCmp_compareOn fun equal => by
    rename_i left right
    cases left <;> cases right <;> first | rfl | exact absurd equal (by decide)

end Permission

structure Role where
  name : String
  permissions : SortedSet Permission
deriving DecidableEq

namespace Role

instance : Ord Role := ⟨compareLex (compareOn name) (compareOn permissions)⟩

instance : TransOrd Role :=
  inferInstanceAs (TransCmp (compareLex (compareOn name) (compareOn permissions)))

instance : LawfulEqOrd Role :=
  lawfulEqCmp_compareLex fun nameEqual permissionsEqual => by
    rename_i left right
    cases left
    cases right
    cases nameEqual
    cases permissionsEqual
    rfl

def operatorName : String := "BNO"

def operator : Role := ⟨operatorName, .ofList Permission.all⟩

def member : Role := ⟨"Member", .empty⟩

def grants (role : Role) (permission : Permission) : Bool := decide (permission ∈ role.permissions)

end Role

end Consortium
