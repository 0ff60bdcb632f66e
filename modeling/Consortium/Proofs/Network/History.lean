import Consortium.Proofs.Contract.Lineage
import Consortium.Proofs.Network.Record
import Mathlib.Data.List.Induction

/-!
Histories of a ledger that starts empty. Whatever is finalized on it, its log is sourced: every
transaction was approved, and what it consumes or refers to was created by an earlier one. From that
follows where the entities on the ledger come from.
-/

namespace Consortium

/-- An element of a list with one more at its end is that one, or one that the list had before. -/
theorem split_concat {α : Type} {list before after : List α} {last element : α}
    (split : list ++ [last] = before ++ element :: after) :
    list = before ∧ last = element ∧ after = [] ∨ ∃ rest, list = before ++ element :: rest := by
  rcases List.eq_nil_or_concat after with rfl | ⟨rest, other, rfl⟩
  · obtain ⟨same, isLast⟩ := List.append_inj' split rfl
    exact .inl ⟨same, List.head_eq_of_cons_eq isLast, rfl⟩
  · rw [List.concat_eq_append, ← List.cons_append, ← List.append_assoc] at split
    exact .inr ⟨rest, (List.append_inj' split rfl).1⟩

section Signing

variable [Suite]

/-- Every transaction of the log was approved, and builds on earlier ones. -/
inductive Sourced : List Transaction → Prop
  | nil : Sourced []
  | snoc {log : List Transaction} {tx : Transaction} (earlier : Sourced log)
      (approved : Registry.standard.verify tx = .ok ())
      (sources : ∀ recorded ∈ tx.inputs ++ tx.references,
        ∃ origin ∈ log, recorded.state ∈ origin.outputs) : Sourced (log ++ [tx])

namespace Ledger

/-- The ledger after these transactions have been sent in for finalization, one after another. -/
def finalizeAll (history : List Transaction) (ledger : Ledger) : Ledger :=
  history.foldl (fun ledger tx => (finalize tx ledger).2) ledger

theorem finalizeAll_cons_of_accepts {ledger : Ledger} {tx : Transaction}
    (accepts : ledger.Accepts tx) (rest : List Transaction) :
    ledger.finalizeAll (tx :: rest) = (ledger.record tx).finalizeAll rest := by
  rw [finalizeAll, List.foldl_cons, finalize_of_accepts accepts, finalizeAll]

theorem finalizeAll_append (ledger : Ledger) (earlier later : List Transaction) :
    ledger.finalizeAll (earlier ++ later) = (ledger.finalizeAll earlier).finalizeAll later :=
  List.foldl_append

theorem finalizeAll_concat_of_accepts {ledger : Ledger} {tx : Transaction}
    {earlier : List Transaction} (accepts : (ledger.finalizeAll earlier).Accepts tx) :
    ledger.finalizeAll (earlier ++ [tx]) = (ledger.finalizeAll earlier).record tx :=
  (finalizeAll_append ledger earlier [tx]).trans (finalizeAll_cons_of_accepts accepts [])

/-- The last transaction of a history was recorded, or was refused and changed nothing. -/
@[elab_as_elim]
theorem finalizeAll_induction {ledger : Ledger} {motive : List Transaction → Ledger → Prop}
    (start : motive [] ledger)
    (recorded : ∀ earlier tx, (ledger.finalizeAll earlier).Accepts tx →
      motive earlier (ledger.finalizeAll earlier) →
        motive (earlier ++ [tx]) ((ledger.finalizeAll earlier).record tx))
    (refused : ∀ earlier tx, motive earlier (ledger.finalizeAll earlier) →
      motive (earlier ++ [tx]) (ledger.finalizeAll earlier)) (history : List Transaction) :
    motive history (ledger.finalizeAll history) := by
  induction history using List.reverseRecOn with
  | nil => exact start
  | append_singleton earlier tx ih =>
      by_cases accepts : (ledger.finalizeAll earlier).Accepts tx
      · rw [finalizeAll_concat_of_accepts accepts]
        exact recorded earlier tx accepts ih
      · obtain ⟨failure, unchanged⟩ := finalize_of_not_accepts accepts
        have same : (ledger.finalizeAll earlier).finalizeAll [tx] = ledger.finalizeAll earlier :=
          congrArg Prod.snd unchanged
        rw [finalizeAll_append, same]
        exact refused earlier tx ih

/-- Nothing came onto the ledger but through its log. -/
structure Founded (ledger : Ledger) : Prop where
  contracts : ledger.contracts = .standard
  sourced : Sourced ledger.transactions
  created : ∀ recorded ∈ ledger.states,
    ∃ origin ∈ ledger.transactions, recorded.state ∈ origin.outputs

theorem founded_empty : (empty .standard).Founded where
  contracts := rfl
  sourced := .nil
  created recorded member := by cases member

theorem Founded.record {ledger : Ledger} {tx : Transaction} (founded : ledger.Founded)
    (accepts : ledger.Accepts tx) : (ledger.record tx).Founded where
  contracts := founded.contracts
  sourced := by
    have approved := accepts.approved
    rw [founded.contracts] at approved
    refine .snoc founded.sourced approved ?_
    intro recorded member
    exact founded.created recorded (accepts.current recorded member)
  created := by
    intro recorded member
    rcases mem_states_record member with isNew | ⟨earlier, _⟩
    · exact ⟨tx, by simp [Ledger.record], state_of_mem_recordedOutputs isNew⟩
    · obtain ⟨origin, inLog, isOutput⟩ := founded.created recorded earlier
      exact ⟨origin, List.mem_append_left _ inLog, isOutput⟩

theorem Founded.finalizeAll {ledger : Ledger} (founded : ledger.Founded)
    (history : List Transaction) : (ledger.finalizeAll history).Founded := by
  refine finalizeAll_induction ?start ?recorded ?refused history
  case start => exact founded
  case recorded => exact fun earlier tx accepts founded => founded.record accepts
  case refused => exact fun earlier tx founded => founded

end Ledger

/-! ### Lineage -/

/-- One of the transactions issued the first version of the membership, for the same owner. -/
def MembershipState.IssuedIn (membership : MembershipState) (log : List Transaction) : Prop :=
  ∃ origin ∈ log, ∃ first : MembershipState, origin.IssuesMembership first ∧
    membership.Succeeds first.toEntityHeader ∧ first.owner = membership.owner

/-- One of the transactions issued the first version of the group. -/
def GroupState.IssuedIn (group : GroupState) (log : List Transaction) : Prop :=
  ∃ origin ∈ log, ∃ first : GroupState, origin.IssuesGroup first ∧
    group.Succeeds first.toEntityHeader

/-- The states of a log under the contracts of their kinds all come from an issuance. -/
def Traced (log : List Transaction) : Prop :=
  ∀ before tx after, log = before ++ tx :: after →
    (∀ membership, .ofMembership membership ∈ tx.outputs →
      membership.IssuedIn (before ++ [tx])) ∧
    ∀ group, .ofGroup group ∈ tx.outputs → group.IssuedIn (before ++ [tx])

theorem MembershipState.IssuedIn.of_succeeds {membership previous : MembershipState}
    {log later : List Transaction} (issued : previous.IssuedIn log)
    (succeeds : membership.Succeeds previous.toEntityHeader)
    (sameOwner : previous.owner = membership.owner) (grows : log ⊆ later) :
    membership.IssuedIn later := by
  obtain ⟨origin, inLog, first, issues, earlier, firstOwner⟩ := issued
  exact ⟨origin, grows inLog, first, issues, succeeds.trans earlier, firstOwner.trans sameOwner⟩

omit [Suite] in
theorem GroupState.IssuedIn.of_succeeds {group previous : GroupState}
    {log later : List Transaction} (issued : previous.IssuedIn log)
    (succeeds : group.Succeeds previous.toEntityHeader) (grows : log ⊆ later) :
    group.IssuedIn later := by
  obtain ⟨origin, inLog, first, issues, earlier⟩ := issued
  exact ⟨origin, grows inLog, first, issues, succeeds.trans earlier⟩

namespace Traced

variable {log : List Transaction} {tx : Transaction} (traced : Traced log)

include traced

/-- What one of the transactions created was issued in the log. -/
theorem issued_of_origin {origin : Transaction} (inLog : origin ∈ log) :
    (∀ membership, .ofMembership membership ∈ origin.outputs → membership.IssuedIn log) ∧
      ∀ group, .ofGroup group ∈ origin.outputs → group.IssuedIn log := by
  obtain ⟨before, after, split⟩ := List.append_of_mem inLog
  have ⟨memberships, groups⟩ := traced before origin after split
  have grows : before ++ [origin] ⊆ log := by
    rw [split, List.append_cons before origin after]
    exact List.subset_append_left _ after
  constructor
  · intro membership isOutput
    exact (memberships membership isOutput).of_succeeds (.refl _) rfl grows
  · intro group isOutput
    exact (groups group isOutput).of_succeeds (.refl _) grows

variable (approved : Registry.standard.verify tx = .ok ())
  (sources : ∀ recorded ∈ tx.inputs ++ tx.references,
    ∃ origin ∈ log, recorded.state ∈ origin.outputs)

include approved sources

theorem membership_of_approved {membership : MembershipState}
    (isOutput : .ofMembership membership ∈ tx.outputs) :
    membership.IssuedIn (log ++ [tx]) := by
  obtain ⟨command, value, accepted⟩ :=
    Registry.membershipAccepted_of_touched approved (List.mem_append_right _ isOutput)
  rcases accepted.issues_or_continues isOutput with
    issues | ⟨recorded, isInput, previous, isPrevious, succeeds, sameOwner⟩
  · exact ⟨tx, by simp, membership, issues, .refl _, rfl⟩
  · obtain ⟨origin, inLog, created⟩ := sources recorded (List.mem_append_left _ isInput)
    rw [isPrevious] at created
    have issued := (traced.issued_of_origin inLog).1 previous created
    exact issued.of_succeeds succeeds sameOwner (List.subset_append_left log [tx])

theorem group_of_approved {group : GroupState} (isOutput : .ofGroup group ∈ tx.outputs) :
    group.IssuedIn (log ++ [tx]) := by
  obtain ⟨command, value, accepted⟩ :=
    Registry.groupAccepted_of_touched approved (List.mem_append_right _ isOutput)
  rcases accepted.issues_or_continues isOutput with
    issues | ⟨recorded, isInput, previous, isPrevious, succeeds⟩
  · exact ⟨tx, by simp, group, issues, .refl _⟩
  · obtain ⟨origin, inLog, created⟩ := sources recorded (List.mem_append_left _ isInput)
    rw [isPrevious] at created
    have issued := (traced.issued_of_origin inLog).2 previous created
    exact issued.of_succeeds succeeds (List.subset_append_left log [tx])

end Traced

theorem Sourced.traced {log : List Transaction} (sourced : Sourced log) : Traced log := by
  induction sourced with
  | nil =>
      intro before tx after split
      simp at split
  | @snoc log last earlier approved sources ih =>
      intro before tx after split
      rcases split_concat split with ⟨rfl, rfl, _⟩ | ⟨rest, isEarlier⟩
      · exact ⟨fun membership => ih.membership_of_approved approved sources,
          fun group => ih.group_of_approved approved sources⟩
      · exact ih before tx rest isEarlier

/-- Every membership and every group that was recorded under the contract of its kind has been
issued there, a membership with the signature of its owner. -/
theorem Ledger.recorded_entities_were_issued (history : List Transaction)
    {before after : List Transaction} {tx : Transaction}
    (log : ((empty .standard).finalizeAll history).transactions = before ++ tx :: after) :
    (∀ membership, .ofMembership membership ∈ tx.outputs →
      membership.IssuedIn (before ++ [tx])) ∧
    ∀ group, .ofGroup group ∈ tx.outputs → group.IssuedIn (before ++ [tx]) := by
  have founded := founded_empty.finalizeAll history
  exact founded.sourced.traced before tx after log

end Signing

/-! ### A ledger with one network -/

section Specimen

open Transparent

def rebranded : MembershipState :=
  { foundersMembership with
    identity := ⟨founder, some ⟨"Guild", .empty⟩⟩
    modified := ⟨2⟩ }

def rebranding : Transaction :=
  @Transaction.sign suite
    { Transaction.empty with
      inputs := [foundersRecord]
      outputs := [.ofMembership rebranded]
      commands := [⟨.membership .modifyBusinessIdentity, .singleton founder.owningKey⟩] } (keys 1)

namespace Ledger

def founded : Ledger := @record suite (empty (@Registry.standard suite)) founding

set_option maxRecDepth 10000 in
theorem finalizeAll_founding (rest : List Transaction) :
    @finalizeAll suite (founding :: rest) (empty (@Registry.standard suite)) =
      @finalizeAll suite rest founded := by
  have accepts : (empty (@Registry.standard suite)).Accepts founding :=
    ⟨by decide +kernel, by decide +kernel⟩
  exact @finalizeAll_cons_of_accepts suite _ _ accepts rest

set_option maxRecDepth 10000 in
theorem founded_accepts_rebranding : founded.Accepts rebranding :=
  ⟨by decide +kernel, by decide +kernel⟩

theorem rebranded_was_issued :
    (@finalizeAll suite [founding, rebranding] (empty (@Registry.standard suite))).transactions =
        [founding] ++ rebranding :: [] ∧
      .ofMembership rebranded ∈ rebranding.outputs ∧
      @MembershipState.IssuedIn suite rebranded ([founding] ++ [rebranding]) := by
  have log : (@finalizeAll suite [founding, rebranding]
      (empty (@Registry.standard suite))).transactions = [founding] ++ rebranding :: [] := by
    rw [finalizeAll_founding, @finalizeAll_cons_of_accepts suite _ _ founded_accepts_rebranding]
    exact congrArg (· ++ [rebranding]) (List.nil_append [founding])
  have isOutput : .ofMembership rebranded ∈ rebranding.outputs := List.mem_singleton.2 rfl
  exact ⟨log, isOutput, (@recorded_entities_were_issued suite _ _ _ _ log).1 rebranded isOutput⟩

end Ledger

end Specimen

end Consortium
