import Consortium.Contract.Initiator
import Consortium.Proofs.Contract.Structure

/-!
What the check of the initiator establishes: the only reference, or the only input of a transaction
without references, is a membership with the authority that the change asks for.
-/

namespace Consortium

/-- The membership may make a change that asks for `permission` to an entity with this header. -/
structure MembershipState.Authorizes (initiator : MembershipState) (evolved : EntityHeader)
    (permission : Option Permission) : Prop where
  network : initiator.networkId = evolved.networkId
  active : initiator.status = .active
  permitted : ∀ asked, permission = some asked → initiator.holds asked
  participates : initiator.owner ∈ evolved.participants

namespace Transaction

/-- The state that speaks for the initiator. -/
def IsInitiator (tx : Transaction) (recorded : StateAndRef) : Prop :=
  tx.references = [recorded] ∨ tx.references = [] ∧ tx.inputs = [recorded]

theorem IsInitiator.mem {tx : Transaction} {recorded : StateAndRef}
    (source : tx.IsInitiator recorded) : recorded ∈ tx.inputs ++ tx.references := by
  rcases source with reference | ⟨_, input⟩
  · simp [reference]
  · simp [input]

theorem resolveInitiator_eq_ok_iff {tx : Transaction} {initiator : MembershipState} :
    tx.resolveInitiator = .ok initiator ↔
      ∃ recorded, tx.IsInitiator recorded ∧ recorded.membership? = some initiator := by
  have single (recorded : StateAndRef) :
      tx.initiatorSource.2 = [recorded] ↔ tx.IsInitiator recorded := by
    unfold initiatorSource IsInitiator
    cases tx.references with
    | nil => simp
    | cons first rest => simp
  simp only [← single]
  unfold resolveInitiator
  generalize tx.initiatorSource = origin
  obtain ⟨source, candidates⟩ := origin
  match candidates with
  | [] => simp
  | [recorded] =>
      cases found : recorded.membership? with
      | none => simp [found]
      | some membership => simp [found]
  | first :: second :: rest => simp

/-- The initiator may make the change, and has to sign for it. -/
def Authorized (tx : Transaction) (command : Command) (evolved : EntityHeader)
    (permission : Option Permission) : Prop :=
  ∃ recorded initiator, tx.IsInitiator recorded ∧ recorded.membership? = some initiator ∧
    initiator.Authorizes evolved permission ∧ initiator.owner.owningKey ∈ command.signers

end Transaction

theorem verifyInitiator_eq_ok_iff {tx : Transaction} {networkId : NetworkId}
    {participants : SortedSet Party} {requiredSigners : SortedSet PublicKey}
    {isAuthorized : MembershipState → Bool} {initiator : MembershipState} :
    verifyInitiator tx networkId participants requiredSigners isAuthorized = .ok initiator ↔
      tx.resolveInitiator = .ok initiator ∧ initiator.networkId = networkId ∧
        initiator.status = .active ∧ isAuthorized initiator ∧ initiator.owner ∈ participants ∧
        initiator.owner.owningKey ∈ requiredSigners := by
  rw [verifyInitiator, bind_eq_ok_iff]
  simp only [check_bind_eq_ok_iff, require_eq_ok_iff, MembershipState.isActive,
    decide_eq_true_eq, pure, Except.pure, Except.ok.injEq]
  constructor
  · rintro ⟨_, resolved, network, active, authorized, participates, signs, rfl⟩
    exact ⟨resolved, network, active, authorized, participates, signs⟩
  · intro ⟨resolved, network, active, authorized, participates, signs⟩
    exact ⟨initiator, resolved, network, active, authorized, participates, signs, rfl⟩

/-- A check of the initiator, as both contracts make it for the entity that evolves. -/
theorem verifyInitiator_isOk_iff {tx : Transaction} {command : Command} {evolved : EntityHeader}
    {permission : Option Permission} {isAuthorized : MembershipState → Bool}
    (asks : ∀ initiator, isAuthorized initiator ↔
      ∀ asked, permission = some asked → initiator.holds asked) :
    (do
      let _ ← verifyInitiator tx evolved.networkId evolved.participants command.signers
        isAuthorized
      pure () : Verdict) = .ok () ↔ tx.Authorized command evolved permission := by
  simp only [bind_eq_ok_iff, verifyInitiator_eq_ok_iff, Transaction.resolveInitiator_eq_ok_iff,
    asks]
  constructor
  · intro ⟨initiator, ⟨⟨recorded, source, found⟩, network, active, permitted, participates,
      signs⟩, _⟩
    exact ⟨recorded, initiator, source, found, ⟨network, active, permitted, participates⟩, signs⟩
  · intro ⟨recorded, initiator, source, found, authorizes, signs⟩
    exact ⟨initiator, ⟨⟨recorded, source, found⟩, authorizes.network, authorizes.active,
      authorizes.permitted, authorizes.participates, signs⟩, rfl⟩

end Consortium
