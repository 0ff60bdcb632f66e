import Consortium.Contract.Error
import Consortium.Lock.Request

/-!
Why a coordinator's request fails.
-/

namespace Consortium

inductive Subject where
  | network (id : NetworkId)
  | group (id : LinearId)
  | groupNamed (name : String) (networkId : NetworkId)
  | membership (party : Party) (networkId : NetworkId)
  | membershipContents (party : Party)
deriving DecidableEq

def Subject.toText : Subject → String
  | .network id => "network " ++ id.text
  | .group id => "group " ++ id.toText
  | .groupNamed name networkId => "group named " ++ name ++ " in network " ++ networkId.text
  | .membership party networkId =>
      "membership of " ++ party.name ++ " in network " ++ networkId.text
  | .membershipContents party => "membership of " ++ party.name

inductive SubmissionError where
  | noCounterparty (key : PublicKey)
  /-- A state to consume or refer to has been consumed, or never was as claimed. -/
  | notCurrent (reference : StateRef)
  | missingOutput (kind : EntityKind)
  | unavailable (reason : String)
deriving DecidableEq

def SubmissionError.reason : SubmissionError → String
  | .noCounterparty key => "no counterparty signs for key " ++ key.toHex
  | .notCurrent reference => "state " ++ reference.toText ++ " is not current"
  | .missingOutput kind => "finalized transaction carries no " ++ kind.name ++ " output"
  | .unavailable reason => reason

inductive NetworkError where
  | notFound (subject : Subject)
  | alreadyExists (subject : Subject)
  | duplicate (key : LockKey)
  | rejected (failure : ValidationError)
  | submission (failure : SubmissionError)
  | store (failure : StoreError)
  | identity (failure : IdentityError)
  | configuration (reason : String)
deriving DecidableEq

namespace NetworkError

def kind : NetworkError → String
  | .notFound _ => "NotFound"
  | .alreadyExists _ => "AlreadyExists"
  | .duplicate _ => "Duplicate"
  | .rejected failure => "Validation." ++ failure.kind
  | .submission _ => "Submission"
  | .store failure => "Store." ++ failure.kind
  | .identity failure => "Types." ++ failure.kind
  | .configuration _ => "Config"

def message : NetworkError → String
  | .notFound subject => subject.toText ++ " not found"
  | .alreadyExists subject => subject.toText ++ " already exists"
  | .duplicate key => LockError.duplicateMessage key
  | .rejected failure => "transaction rejected: " ++ failure.message
  | .submission failure => "submission failed: " ++ failure.reason
  | .store failure => "store error: " ++ failure.message
  | .identity failure => failure.message
  | .configuration reason => "configuration error: " ++ reason

def ofLock : LockError → NetworkError
  | .duplicate key => .duplicate key
  | .store failure => .store failure

end NetworkError

end Consortium
