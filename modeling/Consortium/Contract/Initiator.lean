import Consortium.Contract.Error
import Consortium.Ledger.Transaction

/-!
The initiator of a transaction: the membership on whose authority it changes a state.
-/

namespace Consortium

namespace Transaction

/-- Where the initiator is looked for: among the references if there are any, else among the
inputs. -/
def initiatorSource (tx : Transaction) : String × List StateAndRef :=
  if tx.references.isEmpty then ("input", tx.inputs) else ("reference", tx.references)

/-- The initiator is the only reference, or the only input of a transaction without references. -/
def resolveInitiator (tx : Transaction) : Except ValidationError MembershipState :=
  let (source, candidates) := tx.initiatorSource
  match candidates with
  | [single] =>
      match single.membership? with
      | some membership => .ok membership
      | none => .error (.initiatorUnresolved (source ++ " state is not a membership"))
  | others =>
      .error (.initiatorUnresolved
        ("expected exactly one " ++ source ++ " state, found " ++ toString others.length))

end Transaction

/-- The initiator has to belong to the network, be active and authorized, be one of the participants
of the state that evolves, and sign with a required key. -/
def verifyInitiator (tx : Transaction) (networkId : NetworkId)
    (participants : SortedSet Party) (requiredSigners : SortedSet PublicKey)
    (isAuthorized : MembershipState → Bool) : Except ValidationError MembershipState := do
  let initiator ← tx.resolveInitiator
  let owner := initiator.owner
  require (initiator.networkId = networkId)
    (.authorization (.wrongNetwork networkId initiator.networkId))
  require (initiator.isActive) (.authorization (.notActive owner.name initiator.status))
  require (isAuthorized initiator) (.authorization (.permissionDenied owner.name))
  require (owner ∈ participants) (.authorization (.notParticipant owner.name))
  require (owner.owningKey ∈ requiredSigners) (.authorization (.notRequiredSigner owner.name))
  pure initiator

end Consortium
