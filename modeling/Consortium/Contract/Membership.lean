import Consortium.Contract.Initiator
import Consortium.Contract.Structure

/-!
The contract of memberships. On top of the structural rules a membership keeps its owner, who is
always one of its participants; then one rule per command, which a deployment may replace together
with the contract id that its memberships carry.
-/

namespace Consortium

structure MembershipRules where
  contractId : ContractId
  verifyBootstrap : Transaction → Command → MembershipState → Verdict
  verifyRequest : Transaction → Command → MembershipState → Verdict
  verifyActivate : Transaction → Command → (input output : MembershipState) → Verdict
  verifySuspend : Transaction → Command → (input output : MembershipState) → Verdict
  verifyModifyRoles : Transaction → Command → (input output : MembershipState) → Verdict
  verifyModifyBusinessIdentity :
    Transaction → Command → (input output : MembershipState) → Verdict
  verifyModifyParticipants : Transaction → Command → (input output : MembershipState) → Verdict
  verifyRevoke : Transaction → Command → MembershipState → Verdict

namespace MembershipRules

def verifyAuthority (tx : Transaction) (command : Command) (evolved : MembershipState)
    (isAuthorized : MembershipState → Bool) : Verdict := do
  let _ ← verifyInitiator tx evolved.networkId evolved.participants command.signers isAuthorized
  pure ()

/-! What a transition leaves as it was. -/

def keepsStatus (command : String) (input output : MembershipState) : Verdict :=
  require (input.status = output.status) (.rejected command "status must not change")

def keepsRoles (command : String) (input output : MembershipState) : Verdict :=
  require (input.roles = output.roles) (.rejected command "roles must not change")

def keepsBusiness (command : String) (input output : MembershipState) : Verdict :=
  require (input.business = output.business)
    (.rejected command "business identity must not change")

def ownerSigns (command : String) (required : Command) (output : MembershipState) : Verdict :=
  require (output.owner.owningKey ∈ required.signers)
    (.rejected command "membership owner must be a required signer")

def standard : MembershipRules where
  contractId := .membership
  verifyBootstrap tx command output := do
    require (tx.inputs.isEmpty)
      (.rejected "Membership.Bootstrap" "bootstrap must not consume any input")
    require ((tx.outputsOf .membership).length = 1)
      (.rejected "Membership.Bootstrap" "bootstrap must issue exactly one membership")
    require (output.isActive)
      (.rejected "Membership.Bootstrap" "bootstrapped membership must be active")
    require (output.isOperator)
      (.rejected "Membership.Bootstrap" "bootstrapped membership must hold the operator role")
    ownerSigns "Membership.Bootstrap" command output
  verifyRequest tx command output := do
    require (tx.inputs.isEmpty)
      (.rejected "Membership.Request" "request must not consume any input")
    require (output.isPending)
      (.rejected "Membership.Request" "requested membership must be pending")
    require (output.roles.isEmpty)
      (.rejected "Membership.Request" "requested membership must not hold any role")
    ownerSigns "Membership.Request" command output
  verifyActivate tx command input output := do
    require (!input.isActive)
      (.rejected "Membership.Activate" "membership is already active")
    require (output.isActive)
      (.rejected "Membership.Activate" "output membership must be active")
    keepsRoles "Membership.Activate" input output
    keepsBusiness "Membership.Activate" input output
    verifyAuthority tx command output fun initiator => initiator.holds .activateMembership
  verifySuspend tx command input output := do
    require (!input.isSuspended)
      (.rejected "Membership.Suspend" "membership is already suspended")
    require (output.isSuspended)
      (.rejected "Membership.Suspend" "output membership must be suspended")
    keepsRoles "Membership.Suspend" input output
    keepsBusiness "Membership.Suspend" input output
    verifyAuthority tx command output fun initiator => initiator.holds .suspendMembership
  verifyModifyRoles tx command input output := do
    keepsStatus "Membership.ModifyRoles" input output
    keepsBusiness "Membership.ModifyRoles" input output
    require (input.roles ≠ output.roles)
      (.rejected "Membership.ModifyRoles" "roles must change")
    verifyAuthority tx command output fun initiator => initiator.holds .modifyRoles
  verifyModifyBusinessIdentity tx command input output := do
    keepsStatus "Membership.ModifyBusinessIdentity" input output
    keepsRoles "Membership.ModifyBusinessIdentity" input output
    require (input.business ≠ output.business)
      (.rejected "Membership.ModifyBusinessIdentity" "business identity must change")
    verifyAuthority tx command output fun initiator => initiator.holds .modifyBusinessIdentity
  verifyModifyParticipants tx command input output := do
    keepsStatus "Membership.ModifyParticipants" input output
    keepsRoles "Membership.ModifyParticipants" input output
    keepsBusiness "Membership.ModifyParticipants" input output
    require (input.participants ≠ output.participants)
      (.rejected "Membership.ModifyParticipants" "participants must change")
    verifyAuthority tx command output fun _ => true
  verifyRevoke tx command input := do
    require (tx.outputs.isEmpty)
      (.rejected "Membership.Revoke" "revocation must not produce any output")
    verifyAuthority tx command input fun initiator => initiator.holds .revokeMembership

/-- The owner of a membership is one of its participants, before any rule of a command. -/
def verifyOwnerParticipates (output : MembershipState) : Verdict :=
  require (output.owner ∈ output.participants)
    (.rejected "Membership" "membership owner must be a participant")

def verifyOwnerKept (input output : MembershipState) : Verdict :=
  require (input.owner = output.owner) (.immutableFieldChanged .membership .owner)

def verifyOwners (evolution : Evolution MembershipState) : Verdict := do
  match evolution.output with
  | some output => verifyOwnerParticipates output
  | none => .ok ()
  match evolution.input, evolution.output with
  | some input, some output => verifyOwnerKept input output
  | _, _ => .ok ()

def missing (command : MembershipCommand) (what : String) : ValidationError :=
  .rejected "Membership"
    (command.name ++ " transaction must contain a membership " ++ what)

def verifyTransition (evolution : Evolution MembershipState) (command : MembershipCommand)
    (rule : (input output : MembershipState) → Verdict) : Verdict :=
  match evolution.input, evolution.output with
  | some input, some output => rule input output
  | none, _ => .error (missing command "input")
  | some _, none => .error (missing command "output")

def verifyIssuance (evolution : Evolution MembershipState) (command : MembershipCommand)
    (rule : MembershipState → Verdict) : Verdict :=
  match evolution.output with
  | some output => rule output
  | none => .error (missing command "output")

def verify [Suite] (rules : MembershipRules) (tx : Transaction) : Verdict := do
  let (command, value) ← tx.singleCommand .membership CommandValue.membership?
  let evolution ← verifyStructure MembershipState tx command rules.contractId
    (decide (value = .bootstrap))
  verifyOwners evolution
  match value with
  | .bootstrap => verifyIssuance evolution value (rules.verifyBootstrap tx command)
  | .request => verifyIssuance evolution value (rules.verifyRequest tx command)
  | .activate => verifyTransition evolution value (rules.verifyActivate tx command)
  | .suspend => verifyTransition evolution value (rules.verifySuspend tx command)
  | .modifyRoles => verifyTransition evolution value (rules.verifyModifyRoles tx command)
  | .modifyBusinessIdentity =>
      verifyTransition evolution value (rules.verifyModifyBusinessIdentity tx command)
  | .modifyParticipants =>
      verifyTransition evolution value (rules.verifyModifyParticipants tx command)
  | .revoke =>
      match evolution.input with
      | some input => rules.verifyRevoke tx command input
      | none => .error (missing .revoke "input")

end MembershipRules

end Consortium
