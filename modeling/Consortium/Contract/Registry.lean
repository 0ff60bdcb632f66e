import Consortium.Contract.Group
import Consortium.Contract.Membership

/-!
The registry of contracts: which contract stands behind a contract id, and the verdict on a
transaction of all contracts that its states name.
-/

namespace Consortium

abbrev Contract := Transaction → Verdict

structure Registry where
  contracts : SortedMap ContractId Contract

namespace Registry

def empty : Registry := ⟨.empty⟩

/-- Puts a contract under `id`, in place of one that may be there. -/
def register (registry : Registry) (id : ContractId) (contract : Contract) : Registry :=
  ⟨registry.contracts.insert id contract⟩

def standard [Suite] : Registry :=
  (empty.register .group GroupRules.standard.verify).register .membership
    MembershipRules.standard.verify

def get? (registry : Registry) (id : ContractId) : Option Contract := registry.contracts.find? id

def namedContracts (tx : Transaction) : SortedSet ContractId :=
  .ofList (tx.inputs.map (fun input => input.state.contract) ++
    tx.outputs.map TransactionState.contract)

/-- Runs every named contract once, in the order of their ids, until one refuses. -/
def verify (registry : Registry) (tx : Transaction) : Verdict :=
  (namedContracts tx).toList.forM fun id =>
    match registry.get? id with
    | some contract => contract tx
    | none => .error (.unknownContract id)

end Registry

end Consortium
