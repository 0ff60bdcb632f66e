import Consortium.Identity.Error
import Consortium.Identity.Uuid

/-!
Linear identifiers: the identity of a ledger state across its versions. The uuid is what uniqueness
is enforced on; the external id is a label that a caller may attach.
-/

namespace Consortium

open Std

structure LinearId where
  externalId : Option String
  uuid : Uuid
deriving DecidableEq

namespace LinearId

instance : Ord LinearId := ⟨compareLex (compareOn externalId) (compareOn uuid)⟩

instance : TransOrd LinearId :=
  inferInstanceAs (TransCmp (compareLex (compareOn externalId) (compareOn uuid)))

instance : LawfulEqOrd LinearId :=
  lawfulEqCmp_compareLex fun externalEqual uuidEqual => by
    rename_i left right
    cases left
    cases right
    cases externalEqual
    cases uuidEqual
    rfl

def ofUuid (uuid : Uuid) : LinearId := ⟨none, uuid⟩

def toText (id : LinearId) : String :=
  match id.externalId with
  | some external => external ++ "_" ++ id.uuid.toText
  | none => id.uuid.toText

def splitAtLastUnderscore : List Char → Option (List Char × List Char)
  | [] => none
  | char :: rest =>
      match splitAtLastUnderscore rest with
      | some (before, after) => some (char :: before, after)
      | none => if char = '_' then some ([], rest) else none

/-- Reads a label, an underscore and a uuid, or a uuid alone. A label may hold underscores. -/
def ofText (text : String) : Except IdentityError LinearId :=
  let chars := text.toList
  let (externalId, uuidChars) :=
    match splitAtLastUnderscore chars with
    | some (before, after) => (some (String.ofList before), after)
    | none => (none, chars)
  match Uuid.ofChars? uuidChars with
  | some uuid => .ok ⟨externalId, uuid⟩
  | none => .error (.invalidIdentifier "not a uuid")

end LinearId

end Consortium
