import Consortium.Contract.Initiator
import Consortium.Contract.Structure

/-!
The contract of groups. The structural rules come first; then one rule per command, which a
deployment may replace together with the contract id that its groups carry.
-/

namespace Consortium

structure GroupRules where
  contractId : ContractId
  verifyBootstrap : Transaction → Command → GroupState → Verdict
  verifyCreate : Transaction → Command → GroupState → Verdict
  verifyModify : Transaction → Command → (input output : GroupState) → Verdict
  verifyExit : Transaction → Command → GroupState → Verdict

namespace GroupRules

/-- A bootstrap creates one membership and one group, from nothing. -/
def verifyBootstrapShape (tx : Transaction) : Verdict := do
  require (tx.inputs.isEmpty)
    (.rejected "Group.Bootstrap" "bootstrap must not consume any input")
  require (tx.outputs.length = 2)
    (.rejected "Group.Bootstrap"
      ("bootstrap must produce exactly two outputs, found " ++ toString tx.outputs.length))
  require ((tx.outputsOf .group).length = 1 ∧ (tx.outputsOf .membership).length = 1)
    (.rejected "Group.Bootstrap" "bootstrap must produce one group and one membership")

def verifyAuthority (tx : Transaction) (command : Command) (evolved : GroupState) : Verdict := do
  let _ ← verifyInitiator tx evolved.networkId evolved.participants command.signers
    fun initiator => initiator.holds .modifyGroups
  pure ()

def standard : GroupRules where
  contractId := .group
  verifyBootstrap tx _ _ := verifyBootstrapShape tx
  verifyCreate tx command output := do
    require (tx.inputs.isEmpty)
      (.rejected "Group.Create" "group creation must not consume any input")
    verifyAuthority tx command output
  verifyModify tx command input output := do
    require (input.name ≠ output.name ∨ input.participants ≠ output.participants)
      (.rejected "Group.Modify" "group modification must change the name or the participants")
    verifyAuthority tx command output
  verifyExit tx command input := do
    require (tx.outputs.isEmpty)
      (.rejected "Group.Exit" "group exit must not produce any output")
    verifyAuthority tx command input

/-- The same rules, under which a group also needs a name to be created. -/
def requiringName (rules : GroupRules) : GroupRules :=
  { rules with
    verifyCreate := fun tx command output => do
      require (output.name.isSome) (.rejected "Group.Create" "groups must be named")
      rules.verifyCreate tx command output }

def missing (command : GroupCommand) (what : String) : ValidationError :=
  .rejected (CommandValue.group command).toText ("transaction must contain a group " ++ what)

def verify [Suite] (rules : GroupRules) (tx : Transaction) : Verdict := do
  let (command, value) ← tx.singleCommand .group CommandValue.group?
  let evolution ← verifyStructure GroupState tx command rules.contractId
    (decide (value = .bootstrap))
  match value, evolution.input, evolution.output with
  | .bootstrap, _, some output => rules.verifyBootstrap tx command output
  | .create, _, some output => rules.verifyCreate tx command output
  | .modify, some input, some output => rules.verifyModify tx command input output
  | .exit, some input, _ => rules.verifyExit tx command input
  | .bootstrap, _, none => .error (missing .bootstrap "output")
  | .create, _, none => .error (missing .create "output")
  | .modify, none, _ => .error (missing .modify "input")
  | .exit, none, _ => .error (missing .exit "input")
  | .modify, some _, none => .error (missing .modify "output")

end GroupRules

end Consortium
