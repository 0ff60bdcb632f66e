/-!
Why a text or a byte string is refused as an identity.
-/

namespace Consortium

inductive IdentityError where
  | invalidIdentifier (reason : String)
  | invalidNetworkId (reason : String)
  | invalidParty (reason : String)
  | invalidKey (reason : String)
deriving DecidableEq

namespace IdentityError

def kind : IdentityError → String
  | .invalidIdentifier _ => "InvalidIdentifier"
  | .invalidNetworkId _ => "InvalidNetworkId"
  | .invalidParty _ => "InvalidParty"
  | .invalidKey _ => "InvalidKey"

def message : IdentityError → String
  | .invalidIdentifier reason => "invalid unique identifier: " ++ reason
  | .invalidNetworkId reason => "invalid network id: " ++ reason
  | .invalidParty reason => "invalid party: " ++ reason
  | .invalidKey reason => "invalid public key: " ++ reason

end IdentityError

end Consortium
