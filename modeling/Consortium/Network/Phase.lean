/-!
The stages of an issuance as they are shown to an operator.
-/

namespace Consortium

inductive IssuancePhase where
  | checkingConflicts
  | locking
  | building
  | awaitingCoSignature
  | verifying
  | awaitingFinalization
  | finalized
deriving DecidableEq

namespace IssuancePhase

def all : List IssuancePhase :=
  [.checkingConflicts, .locking, .building, .awaitingCoSignature, .verifying,
    .awaitingFinalization, .finalized]

def name : IssuancePhase → String
  | .checkingConflicts => "checking conflicts"
  | .locking => "locking"
  | .building => "building"
  | .awaitingCoSignature => "awaiting co-signature"
  | .verifying => "verifying"
  | .awaitingFinalization => "awaiting finalization"
  | .finalized => "finalized"

end IssuancePhase

end Consortium
