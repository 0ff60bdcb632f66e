import Consortium.Identity.Key
import Consortium.Ledger.State

/-!
Commands: what a transaction means to do, and who has to sign for it.
-/

namespace Consortium

inductive GroupCommand where
  | bootstrap
  | create
  | modify
  | exit
deriving DecidableEq

namespace GroupCommand

def all : List GroupCommand := [.bootstrap, .create, .modify, .exit]

def name : GroupCommand → String
  | .bootstrap => "Bootstrap"
  | .create => "Create"
  | .modify => "Modify"
  | .exit => "Exit"

end GroupCommand

inductive MembershipCommand where
  | bootstrap
  | request
  | activate
  | suspend
  | modifyRoles
  | modifyBusinessIdentity
  | modifyParticipants
  | revoke
deriving DecidableEq

namespace MembershipCommand

def all : List MembershipCommand :=
  [.bootstrap, .request, .activate, .suspend, .modifyRoles, .modifyBusinessIdentity,
    .modifyParticipants, .revoke]

def name : MembershipCommand → String
  | .bootstrap => "Bootstrap"
  | .request => "Request"
  | .activate => "Activate"
  | .suspend => "Suspend"
  | .modifyRoles => "ModifyRoles"
  | .modifyBusinessIdentity => "ModifyBusinessIdentity"
  | .modifyParticipants => "ModifyParticipants"
  | .revoke => "Revoke"

end MembershipCommand

inductive CommandValue where
  | group (command : GroupCommand)
  | membership (command : MembershipCommand)
deriving DecidableEq

namespace CommandValue

def all : List CommandValue := GroupCommand.all.map group ++ MembershipCommand.all.map membership

def group? : CommandValue → Option GroupCommand
  | .group command => some command
  | .membership _ => none

def membership? : CommandValue → Option MembershipCommand
  | .group _ => none
  | .membership command => some command

def toText : CommandValue → String
  | .group command => "Group." ++ command.name
  | .membership command => "Membership." ++ command.name

end CommandValue

structure Command where
  value : CommandValue
  signers : SortedSet PublicKey
deriving DecidableEq

end Consortium
