import Consortium.Proofs.Binary.Stored
import Consortium.Proofs.Ledger.Order
import Mathlib.Data.List.Forall2

/-!
Sets on the ledger have one form only. A draft of a transaction keeps as lists what the transaction
keeps as sets: participants, roles, the permissions of a role and the signers of a command. Two
drafts become the same transaction if and only if their lists have the same elements, so whoever
builds a transaction gets the same bytes and the same id, however the elements came in.
-/

namespace Consortium

open Std Binary

/-! ### Lists with the same elements -/

/-- In whatever order and with whatever repetitions. -/
def SameElements {α : Type} (left right : List α) : Prop :=
  (∀ element ∈ left, element ∈ right) ∧ ∀ element ∈ right, element ∈ left

instance {α : Type} [DecidableEq α] (left right : List α) :
    Decidable (SameElements left right) :=
  inferInstanceAs (Decidable (_ ∧ _))

theorem sameElements_map_iff {α β : Type} {make : α → β} {left right : List α} :
    SameElements (left.map make) (right.map make) ↔
      (∀ element ∈ left, ∃ other ∈ right, make element = make other) ∧
        ∀ other ∈ right, ∃ element ∈ left, make element = make other := by
  rw [SameElements, List.forall_mem_map, List.forall_mem_map]
  simp only [List.mem_map, eq_comm]

theorem SortedSet.ofList_eq_iff {α : Type} [Ord α] [TransOrd α] [LawfulEqOrd α]
    {left right : List α} : ofList left = ofList right ↔ SameElements left right := by
  constructor
  · intro same
    have members (element : α) : element ∈ left ↔ element ∈ right := by
      rw [← mem_ofList, same, mem_ofList]
    exact ⟨fun element => (members element).1, fun element => (members element).2⟩
  · intro ⟨within, conversely⟩
    refine SortedSet.ext fun element => ?_
    rw [mem_ofList, mem_ofList]
    exact ⟨within element, conversely element⟩

theorem map_eq_map_iff_forall₂ {α β : Type} {make : α → β} {Alike : α → α → Prop}
    (eq_iff : ∀ {element other}, make element = make other ↔ Alike element other)
    {left right : List α} : left.map make = right.map make ↔ left.Forall₂ Alike right := by
  rw [← List.forall₂_eq_eq_eq, List.forall₂_map_left_iff, List.forall₂_map_right_iff]
  simp only [eq_iff]

/-! ### Drafts of states -/

structure RoleDraft where
  name : String
  permissions : List Permission
deriving DecidableEq

namespace RoleDraft

def build (draft : RoleDraft) : Role := ⟨draft.name, .ofList draft.permissions⟩

def Alike (draft other : RoleDraft) : Prop :=
  draft.name = other.name ∧ SameElements draft.permissions other.permissions

instance (draft other : RoleDraft) : Decidable (draft.Alike other) :=
  inferInstanceAs (Decidable (_ ∧ _))

theorem build_eq_iff {draft other : RoleDraft} : draft.build = other.build ↔ draft.Alike other := by
  rw [build, build, Role.mk.injEq, SortedSet.ofList_eq_iff, Alike]

/-- Every role of one list is in the other one, with the same permissions in some order. -/
def SameRoles (left right : List RoleDraft) : Prop :=
  (∀ role ∈ left, ∃ other ∈ right, role.Alike other) ∧
    ∀ other ∈ right, ∃ role ∈ left, role.Alike other

instance (left right : List RoleDraft) : Decidable (SameRoles left right) :=
  inferInstanceAs (Decidable (_ ∧ _))

theorem ofList_map_build_eq_iff {left right : List RoleDraft} :
    SortedSet.ofList (left.map build) = .ofList (right.map build) ↔ SameRoles left right := by
  rw [SortedSet.ofList_eq_iff, sameElements_map_iff]
  simp only [build_eq_iff, SameRoles]

end RoleDraft

structure HeaderDraft where
  networkId : NetworkId
  linearId : LinearId
  issuer : Party
  issued : Timestamp
  modified : Timestamp
  participants : List Party
deriving DecidableEq

namespace HeaderDraft

def build (draft : HeaderDraft) : EntityHeader :=
  { draft with participants := .ofList draft.participants }

def Alike (draft other : HeaderDraft) : Prop :=
  { draft with participants := other.participants } = other ∧
    SameElements draft.participants other.participants

instance (draft other : HeaderDraft) : Decidable (draft.Alike other) :=
  inferInstanceAs (Decidable (_ ∧ _))

theorem build_eq_iff {draft other : HeaderDraft} :
    draft.build = other.build ↔ draft.Alike other := by
  cases other
  simp only [build, Alike, EntityHeader.mk.injEq, HeaderDraft.mk.injEq, SortedSet.ofList_eq_iff,
    and_assoc, and_true]

end HeaderDraft

structure GroupDraft extends HeaderDraft where
  name : Option String
deriving DecidableEq

namespace GroupDraft

def build (draft : GroupDraft) : GroupState :=
  { draft.toHeaderDraft.build with name := draft.name }

def Alike (draft other : GroupDraft) : Prop :=
  draft.toHeaderDraft.Alike other.toHeaderDraft ∧ draft.name = other.name

instance (draft other : GroupDraft) : Decidable (draft.Alike other) :=
  inferInstanceAs (Decidable (_ ∧ _))

theorem build_eq_iff {draft other : GroupDraft} :
    draft.build = other.build ↔ draft.Alike other := by
  rw [Alike, ← HeaderDraft.build_eq_iff, ← GroupState.mk.injEq]
  rfl

end GroupDraft

structure MembershipDraft extends HeaderDraft where
  identity : MemberIdentity
  status : MembershipStatus
  roles : List RoleDraft
deriving DecidableEq

namespace MembershipDraft

def build (draft : MembershipDraft) : MembershipState :=
  { draft.toHeaderDraft.build with
    identity := draft.identity
    status := draft.status
    roles := .ofList (draft.roles.map RoleDraft.build) }

def Alike (draft other : MembershipDraft) : Prop :=
  draft.toHeaderDraft.Alike other.toHeaderDraft ∧ draft.identity = other.identity ∧
    draft.status = other.status ∧ RoleDraft.SameRoles draft.roles other.roles

instance (draft other : MembershipDraft) : Decidable (draft.Alike other) :=
  inferInstanceAs (Decidable (_ ∧ _ ∧ _ ∧ _))

theorem build_eq_iff {draft other : MembershipDraft} :
    draft.build = other.build ↔ draft.Alike other := by
  rw [Alike, ← HeaderDraft.build_eq_iff, ← RoleDraft.ofList_map_build_eq_iff,
    ← MembershipState.mk.injEq]
  rfl

end MembershipDraft

inductive EntityDraft where
  | group (draft : GroupDraft)
  | membership (draft : MembershipDraft)
deriving DecidableEq

namespace EntityDraft

def build : EntityDraft → ContractState
  | .group draft => .group draft.build
  | .membership draft => .membership draft.build

def Alike : EntityDraft → EntityDraft → Prop
  | .group draft, .group other => draft.Alike other
  | .membership draft, .membership other => draft.Alike other
  | .group _, .membership _ | .membership _, .group _ => False

instance : (draft other : EntityDraft) → Decidable (draft.Alike other)
  | .group draft, .group other => inferInstanceAs (Decidable (draft.Alike other))
  | .membership draft, .membership other => inferInstanceAs (Decidable (draft.Alike other))
  | .group _, .membership _ | .membership _, .group _ => inferInstanceAs (Decidable False)

theorem build_eq_iff : {draft other : EntityDraft} → (draft.build = other.build ↔ draft.Alike other)
  | .group _, .group _ => by
      rw [build, build, ContractState.group.injEq, GroupDraft.build_eq_iff, Alike]
  | .membership _, .membership _ => by
      rw [build, build, ContractState.membership.injEq, MembershipDraft.build_eq_iff, Alike]
  | .group _, .membership _ | .membership _, .group _ => by simp [build, Alike]

end EntityDraft

structure StateDraft where
  data : EntityDraft
  contract : ContractId
deriving DecidableEq

namespace StateDraft

def build (draft : StateDraft) : TransactionState := ⟨draft.data.build, draft.contract⟩

def Alike (draft other : StateDraft) : Prop :=
  draft.data.Alike other.data ∧ draft.contract = other.contract

instance (draft other : StateDraft) : Decidable (draft.Alike other) :=
  inferInstanceAs (Decidable (_ ∧ _))

theorem build_eq_iff {draft other : StateDraft} :
    draft.build = other.build ↔ draft.Alike other := by
  rw [build, build, TransactionState.mk.injEq, EntityDraft.build_eq_iff, Alike]

end StateDraft

structure RecordDraft where
  state : StateDraft
  reference : StateRef
deriving DecidableEq

namespace RecordDraft

def build (draft : RecordDraft) : StateAndRef := ⟨draft.state.build, draft.reference⟩

def Alike (draft other : RecordDraft) : Prop :=
  draft.state.Alike other.state ∧ draft.reference = other.reference

instance (draft other : RecordDraft) : Decidable (draft.Alike other) :=
  inferInstanceAs (Decidable (_ ∧ _))

theorem build_eq_iff {draft other : RecordDraft} :
    draft.build = other.build ↔ draft.Alike other := by
  rw [build, build, StateAndRef.mk.injEq, StateDraft.build_eq_iff, Alike]

end RecordDraft

/-! ### Drafts of transactions -/

structure CommandDraft where
  value : CommandValue
  signers : List PublicKey
deriving DecidableEq

namespace CommandDraft

def build (draft : CommandDraft) : Command := ⟨draft.value, .ofList draft.signers⟩

def Alike (draft other : CommandDraft) : Prop :=
  draft.value = other.value ∧ SameElements draft.signers other.signers

instance (draft other : CommandDraft) : Decidable (draft.Alike other) :=
  inferInstanceAs (Decidable (_ ∧ _))

theorem build_eq_iff {draft other : CommandDraft} :
    draft.build = other.build ↔ draft.Alike other := by
  rw [build, build, Command.mk.injEq, SortedSet.ofList_eq_iff, Alike]

end CommandDraft

structure TransactionDraft where
  inputs : List RecordDraft
  outputs : List StateDraft
  references : List RecordDraft
  commands : List CommandDraft
  signatures : List TransactionSignature
deriving DecidableEq

namespace TransactionDraft

def build (draft : TransactionDraft) : Transaction where
  inputs := draft.inputs.map RecordDraft.build
  outputs := draft.outputs.map StateDraft.build
  references := draft.references.map RecordDraft.build
  commands := draft.commands.map CommandDraft.build
  signatures := draft.signatures

def Alike (draft other : TransactionDraft) : Prop :=
  draft.inputs.Forall₂ RecordDraft.Alike other.inputs ∧
    draft.outputs.Forall₂ StateDraft.Alike other.outputs ∧
    draft.references.Forall₂ RecordDraft.Alike other.references ∧
    draft.commands.Forall₂ CommandDraft.Alike other.commands ∧
    draft.signatures = other.signatures

instance (draft other : TransactionDraft) : Decidable (draft.Alike other) :=
  inferInstanceAs (Decidable (_ ∧ _ ∧ _ ∧ _ ∧ _))

theorem build_eq_iff {draft other : TransactionDraft} :
    draft.build = other.build ↔ draft.Alike other := by
  rw [build, build, Transaction.mk.injEq, Alike,
    map_eq_map_iff_forall₂ RecordDraft.build_eq_iff, map_eq_map_iff_forall₂ StateDraft.build_eq_iff,
    map_eq_map_iff_forall₂ RecordDraft.build_eq_iff,
    map_eq_map_iff_forall₂ CommandDraft.build_eq_iff]

end TransactionDraft

/-! ### One form -/

/-- The orders are linear, and only equal values compare as equal. Drafts whose lists have the same
elements give the same bytes, to be kept and to be signed, and the same id; and where the bytes of
two transactions that can be encoded agree, the lists they were built from had the same elements. -/
theorem sets_are_canonical [Suite] :
    (@IsOrderedBy PublicKey _ fun left right => left.bytes.toList < right.bytes.toList) ∧
      (@IsOrderedBy Party _ fun left right => left.name < right.name ∨
        left.name = right.name ∧ left.owningKey.bytes.toList < right.owningKey.bytes.toList) ∧
      (@IsOrderedBy LinearId _ fun left right => left.externalId < right.externalId ∨
        left.externalId = right.externalId ∧ left.uuid.bytes.toList < right.uuid.bytes.toList) ∧
      (@IsOrderedBy (SortedSet Permission) _ fun left right =>
        left.toList.map Permission.rank < right.toList.map Permission.rank) ∧
      (@IsOrderedBy Role _ fun left right => left.name < right.name ∨ left.name = right.name ∧
        left.permissions.toList.map Permission.rank <
          right.permissions.toList.map Permission.rank) ∧
      (@IsOrderedBy ContractId _ fun left right => left.name < right.name) ∧
      (@IsOrderedBy LockKey _ fun left right => left.kind.tag < right.kind.tag ∨
        left.kind = right.kind ∧ left.payload < right.payload) ∧
      (@IsOrderedBy StateRef _ fun left right =>
        left.txId.bytes.toList < right.txId.bytes.toList ∨
          left.txId = right.txId ∧ left.index < right.index) ∧
      (∀ draft other : TransactionDraft, draft.Alike other →
        Codec.encode draft.build = Codec.encode other.build ∧
          draft.build.signedContents = other.build.signedContents ∧
          draft.build.id = other.build.id) ∧
      ∀ draft other : TransactionDraft, Bounded.Fits draft.build → Bounded.Fits other.build →
        Codec.encode draft.build = Codec.encode other.build → draft.Alike other := by
  refine ⟨isOrderedBy PublicKey.compare_eq_lt_iff, isOrderedBy Party.compare_eq_lt_iff,
    isOrderedBy LinearId.compare_eq_lt_iff, isOrderedBy Permission.compare_set_eq_lt_iff,
    isOrderedBy Role.compare_eq_lt_iff, isOrderedBy ContractId.compare_eq_lt_iff,
    isOrderedBy LockKey.compare_eq_lt_iff, isOrderedBy StateRef.compare_eq_lt_iff,
    fun draft other alike => ?_, fun draft other fits otherFits sameBytes => ?_⟩
  · rw [TransactionDraft.build_eq_iff.2 alike]
    exact ⟨rfl, rfl, rfl⟩
  · exact TransactionDraft.build_eq_iff.1 ((encode_eq_iff fits otherFits).1 sameBytes)

namespace TransactionDraft

open Transparent

/-- The founder joins as a clerk. -/
def joining (participants : List Party) (permissions : List Permission)
    (signers : List PublicKey) : TransactionDraft where
  inputs := []
  outputs :=
    [⟨.membership
      { issuedBy founder 1 with
        participants := participants
        identity := ⟨founder, none⟩
        status := .active
        roles := [⟨"Clerk", permissions⟩] }, .membership⟩]
  references := []
  commands := [⟨.membership .bootstrap, signers⟩]
  signatures := []

def plain : TransactionDraft :=
  joining [founder, joiner] [.modifyRoles, .modifyGroups] [founder.owningKey, joiner.owningKey]

def shuffled : TransactionDraft :=
  joining [joiner, founder, joiner] [.modifyGroups, .modifyRoles, .modifyGroups]
    [joiner.owningKey, joiner.owningKey, founder.owningKey]

def narrower : TransactionDraft :=
  joining [founder, joiner] [.modifyRoles] [founder.owningKey, joiner.owningKey]

/-- Shuffled and repeated elements make no difference, and one permission less does. -/
theorem shuffled_agrees_and_narrower_does_not :
    plain.Alike shuffled ∧ Codec.encode plain.build = Codec.encode shuffled.build ∧
      @Transaction.id suite plain.build = @Transaction.id suite shuffled.build ∧
      Bounded.Fits plain.build ∧ Bounded.Fits narrower.build ∧
      Codec.encode plain.build ≠ Codec.encode narrower.build := by
  have alike : plain.Alike shuffled := by decide +kernel
  have fits : Bounded.Fits plain.build := by decide +kernel
  have narrowerFits : Bounded.Fits narrower.build := by decide +kernel
  obtain ⟨_, _, _, _, _, _, _, _, agree, distinguish⟩ := @sets_are_canonical suite
  obtain ⟨sameBytes, _, sameId⟩ := agree plain shuffled alike
  refine ⟨alike, sameBytes, sameId, fits, narrowerFits, fun same => ?_⟩
  exact absurd (distinguish plain narrower fits narrowerFits same) (by decide +kernel)

end TransactionDraft

end Consortium
