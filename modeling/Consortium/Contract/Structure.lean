import Consortium.Contract.Error
import Consortium.Ledger.Transaction

/-!
Structural rules, which every lifecycle contract applies before its own and which none can replace:
how many states of a kind a transaction may touch, under which contract, how a state may evolve, and
that exactly the required signers have signed.
-/

namespace Consortium

/-- An entity that evolves through versions under one linear id. -/
class LinearEntity (ε : Type) where
  kind : EntityKind
  ofState? : ContractState → Option ε
  header : ε → EntityHeader

instance : LinearEntity GroupState where
  kind := .group
  ofState? := ContractState.group?
  header := GroupState.toEntityHeader

instance : LinearEntity MembershipState where
  kind := .membership
  ofState? := ContractState.membership?
  header := MembershipState.toEntityHeader

/-- The versions before and after a transaction, as far as there are any. -/
structure Evolution (ε : Type) where
  input : Option ε
  output : Option ε
deriving DecidableEq

namespace Transaction

def selectCommands {τ : Type} (tx : Transaction) (select : CommandValue → Option τ) :
    List (Command × τ) :=
  tx.commands.filterMap fun command => (select command.value).map fun value => (command, value)

def singleCommand {τ : Type} (tx : Transaction) (kind : EntityKind)
    (select : CommandValue → Option τ) : Except ValidationError (Command × τ) :=
  match tx.selectCommands select with
  | [] => .error (.missingCommand kind)
  | [single] => .ok single
  | many => .error (.multipleCommands kind many.length)

end Transaction

def verifyEvolution (kind : EntityKind) (input output : EntityHeader) : Verdict := do
  require (input.networkId = output.networkId) (.immutableFieldChanged kind .networkId)
  require (input.issued = output.issued) (.immutableFieldChanged kind .issued)
  require (input.issuer = output.issuer) (.immutableFieldChanged kind .issuer)
  require (input.modified ≤ output.modified)
    (.modifiedDecreased kind input.modified output.modified)
  require (input.linearId = output.linearId) (.immutableFieldChanged kind .linearId)

/-- A transaction may refer to one membership at most, and to nothing else. -/
def verifyReferences (tx : Transaction) : Verdict :=
  match tx.references with
  | [] => .ok ()
  | [reference] => require (reference.membership?.isSome) .referenceNotMembership
  | many => .error (.tooManyReferences many.length)

section Signing

variable [Suite]

def verifySigners (tx : Transaction) (command : Command) : Verdict :=
  let actual := tx.signers
  require (actual = command.signers)
    (.signerMismatch (command.signers.difference actual).toList
      (actual.difference command.signers).toList)

/-- The structural rules for the entities of type `ε`. Where `multipleAllowed`, a transaction may
consume and create any number of them. -/
def verifyStructure (ε : Type) [LinearEntity ε] (tx : Transaction) (command : Command)
    (contractId : ContractId) (multipleAllowed : Bool) :
    Except ValidationError (Evolution ε) := do
  let kind := LinearEntity.kind ε
  let inputs := (tx.inputsOf kind).map StateAndRef.state
  let outputs := tx.outputsOf kind
  require (multipleAllowed ∨ inputs.length ≤ 1) (.tooManyInputs kind inputs.length)
  require (multipleAllowed ∨ outputs.length ≤ 1) (.tooManyOutputs kind outputs.length)
  verifyReferences tx
  let states := inputs ++ outputs
  states.forM fun state =>
    require (state.contract = contractId) (.wrongContract kind contractId state.contract)
  states.forM fun state =>
    let header := state.data.header
    require (header.issued ≤ header.modified)
      (.issuedAfterModified kind header.issued header.modified)
  let input : Option ε := inputs.head?.bind fun state => LinearEntity.ofState? state.data
  let output : Option ε := outputs.head?.bind fun state => LinearEntity.ofState? state.data
  match input, output with
  | some before, some after =>
      verifyEvolution kind (LinearEntity.header before) (LinearEntity.header after)
  | _, _ => .ok ()
  verifySigners tx command
  pure ⟨input, output⟩

end Signing

end Consortium
