import Consortium.Identity.Error
import Consortium.Identity.Uuid
import Consortium.Text.Blank

/-!
Network identifiers: which business network a membership or a group belongs to.
-/

namespace Consortium

open Std

structure NetworkId where
  text : String
deriving DecidableEq

namespace NetworkId

instance : Ord NetworkId := ⟨compareOn text⟩

instance : TransOrd NetworkId := inferInstanceAs (TransCmp (compareOn text))

instance : LawfulEqOrd NetworkId :=
  lawfulEqCmp_compareOn fun equal => by
    rename_i left right
    cases left
    cases right
    cases equal
    rfl

/-- A network id chosen by a caller, who may not leave it blank. -/
def ofText (text : String) : Except IdentityError NetworkId :=
  if Text.isBlank text then .error (.invalidNetworkId "network id must not be blank")
  else .ok ⟨text⟩

def ofUuid (uuid : Uuid) : NetworkId := ⟨uuid.toText⟩

end NetworkId

end Consortium
