import Consortium.Ledger.Command

/-!
Why a proposed transaction is refused. A refusal is final for the proposal: the same contents are
refused every time.
-/

namespace Consortium

inductive AuthorizationError where
  | wrongNetwork (expected actual : NetworkId)
  | notActive (party : String) (status : MembershipStatus)
  | permissionDenied (party : String)
  | notParticipant (party : String)
  | notRequiredSigner (party : String)
deriving DecidableEq

namespace AuthorizationError

def kind : AuthorizationError → String
  | .wrongNetwork .. => "WrongNetwork"
  | .notActive .. => "NotActive"
  | .permissionDenied .. => "PermissionDenied"
  | .notParticipant .. => "NotParticipant"
  | .notRequiredSigner .. => "NotRequiredSigner"

def message : AuthorizationError → String
  | .wrongNetwork expected actual =>
      "initiator belongs to network " ++ actual.text ++ ", expected " ++ expected.text
  | .notActive party status =>
      "initiator " ++ party ++ " is not active (status " ++ status.name ++ ")"
  | .permissionDenied party => "initiator " ++ party ++ " does not hold the required permission"
  | .notParticipant party =>
      "initiator " ++ party ++ " is not a participant of the evolved state"
  | .notRequiredSigner party =>
      "initiator " ++ party ++ " is not a required signer of the command"

end AuthorizationError

/-- A field that no later version of an entity may change. -/
inductive ImmutableField where
  | networkId
  | issued
  | issuer
  | linearId
  | owner
deriving DecidableEq

def ImmutableField.name : ImmutableField → String
  | .networkId => "network_id"
  | .issued => "issued"
  | .issuer => "issuer"
  | .linearId => "linear_id"
  | .owner => "owner"

inductive ValidationError where
  | authorization (failure : AuthorizationError)
  | missingCommand (kind : EntityKind)
  | multipleCommands (kind : EntityKind) (count : Nat)
  | tooManyInputs (kind : EntityKind) (count : Nat)
  | tooManyOutputs (kind : EntityKind) (count : Nat)
  | tooManyReferences (count : Nat)
  | referenceNotMembership
  | wrongContract (kind : EntityKind) (expected actual : ContractId)
  | issuedAfterModified (kind : EntityKind) (issued modified : Timestamp)
  | immutableFieldChanged (kind : EntityKind) (field : ImmutableField)
  | modifiedDecreased (kind : EntityKind) (input output : Timestamp)
  | signerMismatch (missing unexpected : List PublicKey)
  | rejected (command reason : String)
  | initiatorUnresolved (reason : String)
  | unknownContract (contract : ContractId)
deriving DecidableEq

namespace ValidationError

def kind : ValidationError → String
  | .authorization failure => "Authorization." ++ failure.kind
  | .missingCommand .. => "MissingCommand"
  | .multipleCommands .. => "MultipleCommands"
  | .tooManyInputs .. => "TooManyInputs"
  | .tooManyOutputs .. => "TooManyOutputs"
  | .tooManyReferences .. => "TooManyReferences"
  | .referenceNotMembership => "ReferenceNotMembership"
  | .wrongContract .. => "WrongContract"
  | .issuedAfterModified .. => "IssuedAfterModified"
  | .immutableFieldChanged .. => "ImmutableFieldChanged"
  | .modifiedDecreased .. => "ModifiedDecreased"
  | .signerMismatch .. => "SignerMismatch"
  | .rejected .. => "Rejected"
  | .initiatorUnresolved .. => "InitiatorUnresolved"
  | .unknownContract .. => "UnknownContract"

def keyList (keys : List PublicKey) : String :=
  "[" ++ ", ".intercalate (keys.map PublicKey.abbreviated) ++ "]"

def message : ValidationError → String
  | .authorization failure => failure.message
  | .missingCommand kind => "transaction carries no " ++ kind.name ++ " command"
  | .multipleCommands kind count =>
      "transaction carries " ++ toString count ++ " " ++ kind.name ++ " commands, expected one"
  | .tooManyInputs kind count =>
      kind.name ++ " transaction has " ++ toString count ++ " " ++ kind.name ++
        " inputs, at most one allowed"
  | .tooManyOutputs kind count =>
      kind.name ++ " transaction has " ++ toString count ++ " " ++ kind.name ++
        " outputs, at most one allowed"
  | .tooManyReferences count =>
      "transaction has " ++ toString count ++ " reference states, at most one allowed"
  | .referenceNotMembership => "reference state must be a membership"
  | .wrongContract kind expected actual =>
      kind.name ++ " state is governed by " ++ actual.name ++ ", expected " ++ expected.name
  | .issuedAfterModified kind issued modified =>
      kind.name ++ " issued at " ++ issued.toText ++ " after it was modified at " ++
        modified.toText
  | .immutableFieldChanged kind field =>
      kind.name ++ " field `" ++ field.name ++ "` must not change"
  | .modifiedDecreased kind input output =>
      kind.name ++ " modified timestamp went backwards: " ++ input.toText ++ " -> " ++
        output.toText
  | .signerMismatch missing unexpected =>
      "transaction signers do not match command signers (missing " ++ keyList missing ++
        ", unexpected " ++ keyList unexpected ++ ")"
  | .rejected command reason => command ++ ": " ++ reason
  | .initiatorUnresolved reason => "cannot resolve initiator: " ++ reason
  | .unknownContract contract => "no contract registered under " ++ contract.name

end ValidationError

abbrev Verdict := Except ValidationError Unit

def require (condition : Prop) [Decidable condition] (failure : ValidationError) : Verdict :=
  if condition then .ok () else .error failure

@[simp] theorem require_eq_ok_iff {condition : Prop} [Decidable condition]
    {failure : ValidationError} : require condition failure = .ok () ↔ condition := by
  by_cases holds : condition <;> simp [require, holds]

end Consortium
