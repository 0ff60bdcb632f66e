import Consortium.Identity.Party
import Consortium.Ordered.Map

/-!
Business identities: what an application says about a member, such as a registration number. The
contracts only compare them.
-/

namespace Consortium

structure BusinessIdentity where
  kind : String
  attributes : SortedMap String String
deriving DecidableEq

structure MemberIdentity where
  party : Party
  business : Option BusinessIdentity
deriving DecidableEq

end Consortium
