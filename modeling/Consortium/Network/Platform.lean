import Consortium.Ledger.Transaction
import Consortium.Network.Error

/-!
The ledger platform as coordinators see it: queries on the current states, and the submission of
transactions.
-/

namespace Consortium

structure FinalizedRecord where
  txId : TxHash
  outputs : List StateAndRef
deriving DecidableEq

namespace FinalizedRecord

def group? (record : FinalizedRecord) : Option StateAndRef :=
  record.outputs.find? fun output => output.group?.isSome

def membership? (record : FinalizedRecord) : Option StateAndRef :=
  record.outputs.find? fun output => output.membership?.isSome

end FinalizedRecord

/-- A type of platforms. Each operation is one atomic step; queries change nothing. -/
class Platform (π : Type) where
  /-- The current group with this uuid; labels do not count. -/
  groupById : LinearId → π → Except StoreError (Option StateAndRef)
  groupsByName : NetworkId → String → π → Except StoreError (List StateAndRef)
  membership : NetworkId → Party → π → Except StoreError (Option StateAndRef)
  memberships : NetworkId → π → Except StoreError (List StateAndRef)
  networkExists : NetworkId → π → Except StoreError Bool
  /-- The transaction with the signatures of all that its commands require. -/
  collectSignatures : Transaction → π → Except NetworkError Transaction × π
  finalize : Transaction → π → Except NetworkError FinalizedRecord × π

end Consortium
