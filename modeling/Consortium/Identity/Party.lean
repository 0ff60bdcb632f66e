import Consortium.Identity.Key
import Consortium.Text.Blank

/-!
Parties: named identities on the ledger, each with the key it signs with.
-/

namespace Consortium

open Std

/-- Two parties are the same only if both name and key agree. -/
structure Party where
  name : String
  owningKey : PublicKey
deriving DecidableEq

namespace Party

instance : Ord Party := ⟨compareLex (compareOn name) (compareOn owningKey)⟩

instance : TransOrd Party :=
  inferInstanceAs (TransCmp (compareLex (compareOn name) (compareOn owningKey)))

instance : LawfulEqOrd Party :=
  lawfulEqCmp_compareLex fun nameEqual keyEqual => by
    rename_i left right
    cases left
    cases right
    cases nameEqual
    cases keyEqual
    rfl

def create (name : String) (owningKey : PublicKey) : Except IdentityError Party :=
  if Text.isBlank name then .error (.invalidParty "party name must not be blank")
  else .ok ⟨name, owningKey⟩

end Party

end Consortium
