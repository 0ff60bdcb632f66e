import Consortium.Proofs.Contract.Bootstrap
import Consortium.Proofs.Contract.Refusal
import Consortium.Proofs.Network.Cosigning
import Consortium.Proofs.Network.GroupIds
import Consortium.Proofs.Network.Interleaving

/-!
What coordinators propose. A coordinator issues a state, or takes one that it has seen on to its
next version; the time of modification does not go back even if the clock does. Whatever the
coordinator has seen was in shape, so the next version is too, and the proposal is well formed.
-/

namespace Consortium

/-! ### Next versions -/

theorem Timestamp.le_latest (now earlier : Timestamp) : earlier ≤ now.latest earlier := by
  unfold latest
  split
  · exact UInt64.le_refl _
  · rename_i later
    exact (UInt64.le_total _ _).resolve_left later

theorem Timestamp.latest_eq_max (now earlier : Timestamp) :
    now.latest earlier = ⟨max now.seconds earlier.seconds⟩ :=
  (apply_ite Timestamp.mk (now ≤ earlier) earlier.seconds now.seconds).symm

theorem EntityHeader.Succeeds.dated {output input : EntityHeader} (succeeds : output.Succeeds input)
    (dated : input.issued ≤ input.modified) : output.issued ≤ output.modified := by
  rw [← succeeds.issued]
  exact UInt64.le_trans dated succeeds.modified

/-- Whether the request asks for something that a member has to have the authority for. -/
def Request.needsInitiator : Request → Bool
  | .found _ | .apply _ => false
  | .change _ _ _ | .revoke _ _ | .createGroup _ | .modifyGroup _ _ | .exitGroup _ => true

namespace Coordinator

theorem evolvedMembership_succeeds (current : MembershipState) (change : MembershipChange)
    (now : Timestamp) :
    (evolvedMembership current change now).Succeeds current.toEntityHeader := by
  refine ⟨?_, ?_, ?_, now.le_latest current.modified, ?_⟩ <;> cases change <;> rfl

theorem owner_evolvedMembership (current : MembershipState) (change : MembershipChange)
    (now : Timestamp) : (evolvedMembership current change now).owner = current.owner := by
  cases change <;> rfl

theorem evolvedGroup_succeeds (current : GroupState) (change : GroupChange) (now : Timestamp) :
    (evolvedGroup current change now).Succeeds current.toEntityHeader :=
  ⟨rfl, rfl, rfl, now.le_latest current.modified, rfl⟩

end Coordinator

/-! ### Forms of proposals -/

namespace Transaction

variable {tx : Transaction} {kind : EntityKind} {command : Command} {input own : StateAndRef}

theorem initiator_of_reference (reference : tx.references = [own])
    (speaks : own.membership?.isSome) :
    tx.RefersSoundly ∧ ∃ initiator, tx.resolveInitiator = .ok initiator := by
  obtain ⟨initiator, isInitiator⟩ := Option.isSome_iff_exists.1 speaks
  refine ⟨.inr ⟨own, reference, speaks⟩, initiator, ?_⟩
  exact resolveInitiator_eq_ok_iff.2 ⟨own, .inl reference, isInitiator⟩

theorem initiator_of_input (noReference : tx.references = []) (consumed : tx.inputs = [input])
    (speaks : input.membership?.isSome) :
    tx.RefersSoundly ∧ ∃ initiator, tx.resolveInitiator = .ok initiator := by
  obtain ⟨initiator, isInitiator⟩ := Option.isSome_iff_exists.1 speaks
  refine ⟨.inl noReference, initiator, ?_⟩
  exact resolveInitiator_eq_ok_iff.2 ⟨input, .inr ⟨noReference, consumed⟩, isInitiator⟩

/-- At most one state is consumed, and at most one is created. If both, it is a next version. -/
theorem wellFormed_of_step (before : Option StateAndRef) (after : Option TransactionState)
    (consumes : tx.inputs = before.toList) (creates : tx.outputs = after.toList)
    (changes : before.isSome ∨ after.isSome) (commands : tx.commands = [command])
    (family : command.value.family = kind)
    (consumed : ∀ input ∈ before, input.state.data.kind = kind ∧ input.state.InShape)
    (created : ∀ output ∈ after, output.data.kind = kind ∧ output.InShape)
    (succeeds : ∀ input ∈ before, ∀ output ∈ after,
      output.data.header.Succeeds input.state.data.header)
    (ownerKept : ∀ input ∈ before, ∀ output ∈ after, ∀ old new,
      input.state.data = .membership old → output.data = .membership new → old.owner = new.owner)
    (initiated : tx.RefersSoundly ∧ ∃ initiator, tx.resolveInitiator = .ok initiator) :
    tx.WellFormed kind command := by
  have touched (state : TransactionState) (member : state ∈ tx.touched) :
      state.data.kind = kind ∧ state.InShape := by
    rw [Transaction.touched, consumes, creates] at member
    rcases List.mem_append.1 member with isConsumed | isCreated
    · obtain ⟨input, isInput, rfl⟩ := List.mem_map.1 isConsumed
      exact consumed input (Option.mem_toList.1 isInput)
    · exact created state (Option.mem_toList.1 isCreated)
  constructor
  case commands => exact commands
  case family => exact family
  case touches =>
    rw [Transaction.touched, consumes, creates]
    cases before <;> cases after <;> simp_all
  case ofKind => exact fun state member => (touched state member).1
  case inShape => exact fun state member => (touched state member).2
  case oneInput =>
    rw [consumes]
    exact Option.length_toList_le
  case oneOutput =>
    rw [creates]
    exact Option.length_toList_le
  case references => exact initiated.1
  case succeeds => simpa only [consumes, creates, Option.mem_toList, Option.mem_def] using succeeds
  case ownerKept =>
    simpa only [consumes, creates, Option.mem_toList, Option.mem_def] using ownerKept
  case initiator => exact initiated.2

end Transaction

section Signing

variable [Suite]

/-! ### What a coordinator has seen -/

omit [Suite] in
theorem Ledger.of_membership {ledger : Ledger} {networkId : NetworkId} {party : Party}
    {recorded : StateAndRef} (found : ledger.membership networkId party = some recorded) :
    recorded ∈ ledger.states ∧ ∃ membership, recorded.membership? = some membership ∧
      membership.networkId = networkId ∧ membership.owner = party := by
  refine ⟨List.mem_of_find?_eq_some found, ?_⟩
  have fits := List.find?_some found
  obtain ⟨membership, isMembership, same⟩ := (Option.any_eq_true _ _).1 fits
  exact ⟨membership, isMembership, of_decide_eq_true same⟩

namespace View

variable {view : View Ledger}

/-- The state was on the ledger at one of the moments. -/
def Shows (view : View Ledger) (recorded : StateAndRef) : Prop :=
  ∃ query, recorded ∈ (view.moment query).states

theorem shows_of_requireMembership {networkId : NetworkId} {party : Party}
    {recorded : StateAndRef}
    (found : Platform.requireMembership view networkId party = .ok recorded) :
    view.Shows recorded ∧ ∃ membership, recorded.membership? = some membership ∧
      membership.owner = party := by
  let ledger := view.moment (.membership networkId party)
  change Platform.requireMembership ledger networkId party = .ok recorded at found
  obtain ⟨isCurrent, membership, contents, _, owned⟩ :=
    Ledger.of_membership (Platform.requireMembership_eq_ok_iff.1 found)
  exact ⟨⟨_, isCurrent⟩, membership, contents, owned⟩

theorem shows_of_requireGroupState {id : LinearId} {recorded : StateAndRef} {group : GroupState}
    (found : Coordinator.requireGroupState view id = .ok (recorded, group)) :
    view.Shows recorded ∧ recorded.group? = some group := by
  let ledger := view.moment (.groupById id)
  change Coordinator.requireGroupState ledger id = .ok (recorded, group) at found
  obtain ⟨isCurrent, isGroup⟩ := Coordinator.requireGroupState_eq_ok_iff.1 found
  exact ⟨⟨_, Ledger.mem_states_of_groupById isCurrent⟩, isGroup⟩

end View

namespace Coordinator

/-- The state that authorizes a change is a membership of this party. -/
def SpeaksBy (coordinator : Coordinator) (own : StateAndRef) : Prop :=
  ∃ initiator, own.membership? = some initiator ∧ initiator.owner = coordinator.identity

/-- What comes of a request whose checks have passed on what the coordinator has seen. -/
inductive Plans (coordinator : Coordinator) (ids : FreshIds) (view : View Ledger) :
    Request → Plan → Prop
  | found (founding : NetworkFounding) (networkId : NetworkId) :
      Plans coordinator ids view (.found founding)
        (coordinator.foundingPlan founding networkId ids)
  | apply (application : MembershipApplication) :
      Plans coordinator ids view (.apply application) (coordinator.applicationPlan application ids)
  | change {networkId : NetworkId} {party : Party} {change : MembershipChange}
      {input : StateAndRef} {current : MembershipState} {references : List StateAndRef}
      (shown : view.Shows input) (contents : input.membership? = some current)
      (speaks : references = [] ∨ ∃ own, references = [own] ∧ coordinator.SpeaksBy own) :
      Plans coordinator ids view (.change networkId party change)
        (coordinator.transitionPlan input current party change references)
  | revoke {networkId : NetworkId} {party : Party} {input : StateAndRef}
      {current : MembershipState} {references : List StateAndRef}
      (shown : view.Shows input) (contents : input.membership? = some current)
      (speaks : references = [] ∨ ∃ own, references = [own] ∧ coordinator.SpeaksBy own) :
      Plans coordinator ids view (.revoke networkId party)
        (coordinator.revocationPlan input party references)
  | createGroup {proposal : GroupProposal} {own : StateAndRef}
      (speaks : coordinator.SpeaksBy own) :
      Plans coordinator ids view (.createGroup proposal) (coordinator.groupPlan proposal ids own)
  | modifyGroup {id : LinearId} {change : GroupChange} {input own : StateAndRef}
      {current : GroupState} (shown : view.Shows input) (contents : input.group? = some current)
      (speaks : coordinator.SpeaksBy own) :
      Plans coordinator ids view (.modifyGroup id change)
        (groupChangePlan input current change own)
  | exitGroup {id : LinearId} {input own : StateAndRef} {current : GroupState}
      (shown : view.Shows input) (contents : input.group? = some current)
      (speaks : coordinator.SpeaksBy own) :
      Plans coordinator ids view (.exitGroup id) (groupExitPlan input current own)

variable {coordinator : Coordinator} {ids : FreshIds} {view : View Ledger} {request : Request}
  {plan : Plan}

theorem speaks_of_authority {networkId : NetworkId} {party : Party}
    {references : List StateAndRef}
    (authority : coordinator.authority networkId party view = .ok references) :
    references = [] ∨ ∃ own, references = [own] ∧ coordinator.SpeaksBy own := by
  unfold Coordinator.authority at authority
  split at authority
  · cases authority
    exact .inl rfl
  · obtain ⟨own, found, same⟩ := bind_eq_ok_iff.1 authority
    cases same
    exact .inr ⟨own, rfl, (View.shows_of_requireMembership found).2⟩

theorem plans (planned : coordinator.plan request ids view = .ok plan) :
    coordinator.Plans ids view request plan := by
  cases request with
  | found founding =>
      obtain ⟨isThere, _, planned⟩ := bind_eq_ok_iff.1 planned
      cases isThere with
      | true => cases planned
      | false =>
          obtain ⟨_, _, planned⟩ := bind_eq_ok_iff.1 planned
          cases planned
          exact .found founding _
  | apply application =>
      obtain ⟨isThere, _, planned⟩ := bind_eq_ok_iff.1 planned
      cases isThere with
      | false => cases planned
      | true =>
          obtain ⟨own, _, planned⟩ := bind_eq_ok_iff.1 planned
          cases own with
          | some member => cases planned
          | none =>
              obtain ⟨_, _, planned⟩ := bind_eq_ok_iff.1 planned
              cases planned
              exact .apply application
  | change networkId party change =>
      obtain ⟨input, found, planned⟩ := bind_eq_ok_iff.1 planned
      obtain ⟨shown, current, contents, _⟩ := View.shows_of_requireMembership found
      rw [contents] at planned
      obtain ⟨references, authority, planned⟩ := bind_eq_ok_iff.1 planned
      cases planned
      exact .change shown contents (speaks_of_authority authority)
  | revoke networkId party =>
      obtain ⟨input, found, planned⟩ := bind_eq_ok_iff.1 planned
      obtain ⟨shown, current, contents, _⟩ := View.shows_of_requireMembership found
      obtain ⟨references, authority, planned⟩ := bind_eq_ok_iff.1 planned
      cases planned
      exact .revoke shown contents (speaks_of_authority authority)
  | createGroup proposal =>
      obtain ⟨own, found, planned⟩ := bind_eq_ok_iff.1 planned
      obtain ⟨_, _, planned⟩ := bind_eq_ok_iff.1 planned
      obtain ⟨_, _, planned⟩ := bind_eq_ok_iff.1 planned
      obtain ⟨_, _, planned⟩ := bind_eq_ok_iff.1 planned
      cases planned
      exact .createGroup (View.shows_of_requireMembership found).2
  | modifyGroup id change =>
      obtain ⟨⟨input, current⟩, found, planned⟩ := bind_eq_ok_iff.1 planned
      obtain ⟨shown, contents⟩ := View.shows_of_requireGroupState found
      obtain ⟨own, ownFound, planned⟩ := bind_eq_ok_iff.1 planned
      obtain ⟨_, _, planned⟩ := bind_eq_ok_iff.1 planned
      obtain ⟨_, _, planned⟩ := bind_eq_ok_iff.1 planned
      cases planned
      exact .modifyGroup shown contents (View.shows_of_requireMembership ownFound).2
  | exitGroup id =>
      obtain ⟨⟨input, current⟩, found, planned⟩ := bind_eq_ok_iff.1 planned
      obtain ⟨shown, contents⟩ := View.shows_of_requireGroupState found
      obtain ⟨own, ownFound, planned⟩ := bind_eq_ok_iff.1 planned
      cases planned
      exact .exitGroup shown contents (View.shows_of_requireMembership ownFound).2

end Coordinator

end Signing

/-! ### What is proposed -/

namespace Coordinator

section Drafts

variable {coordinator : Coordinator} {input own : StateAndRef} (now : Timestamp)

theorem SpeaksBy.initiated {tx : Transaction} (speaks : coordinator.SpeaksBy own)
    (reference : tx.references = [own]) :
    tx.RefersSoundly ∧ ∃ initiator, tx.resolveInitiator = .ok initiator := by
  obtain ⟨initiator, isInitiator, _⟩ := speaks
  exact Transaction.initiator_of_reference reference (by rw [isInitiator]; rfl)

theorem initiated_of_authority {tx : Transaction} (consumed : tx.inputs = [input])
    {current : MembershipState} (contents : input.membership? = some current)
    (speaks : tx.references = [] ∨ ∃ own, tx.references = [own] ∧ coordinator.SpeaksBy own) :
    tx.RefersSoundly ∧ ∃ initiator, tx.resolveInitiator = .ok initiator := by
  rcases speaks with noReference | ⟨own, reference, speaks⟩
  · exact Transaction.initiator_of_input noReference consumed (by rw [contents]; rfl)
  · exact speaks.initiated reference

theorem inShape_evolvedMembership {current : MembershipState}
    (contents : input.membership? = some current) (inShape : input.state.InShape)
    (change : MembershipChange) :
    (TransactionState.ofMembership (evolvedMembership current change now)).InShape := by
  have dated := inShape.dated
  rw [ContractState.membership?_eq_some_iff.1 contents] at dated
  exact ⟨rfl, (evolvedMembership_succeeds current change now).dated dated⟩

theorem inShape_evolvedGroup {current : GroupState} (contents : input.group? = some current)
    (inShape : input.state.InShape) (change : GroupChange) :
    (TransactionState.ofGroup (evolvedGroup current change now)).InShape := by
  have dated := inShape.dated
  rw [ContractState.group?_eq_some_iff.1 contents] at dated
  exact ⟨rfl, (evolvedGroup_succeeds current change now).dated dated⟩

theorem wellFormed_transition {current : MembershipState} {references : List StateAndRef}
    (party : Party) (change : MembershipChange) (contents : input.membership? = some current)
    (inShape : input.state.InShape)
    (speaks : references = [] ∨ ∃ own, references = [own] ∧ coordinator.SpeaksBy own) :
    ((coordinator.transitionPlan input current party change references).draft now).WellFormed
      .membership ⟨.membership change.command, coordinator.transitionSigners party⟩ := by
  have isMembership := ContractState.membership?_eq_some_iff.1 contents
  have sameOwner := owner_evolvedMembership current change now
  refine Transaction.wellFormed_of_step (some input)
    (some (.ofMembership (evolvedMembership current change now))) rfl rfl (.inl rfl) rfl rfl
    ?consumed ?created ?succeeds ?ownerKept (initiated_of_authority rfl contents speaks)
  case consumed =>
    rintro _ ⟨⟩
    exact ⟨by rw [isMembership]; rfl, inShape⟩
  case created =>
    rintro _ ⟨⟩
    exact ⟨rfl, inShape_evolvedMembership now contents inShape change⟩
  case succeeds =>
    rintro _ ⟨⟩ _ ⟨⟩
    rw [isMembership]
    exact evolvedMembership_succeeds current change now
  case ownerKept =>
    rintro _ ⟨⟩ _ ⟨⟩ old new isOld ⟨⟩
    cases isMembership.symm.trans isOld
    exact sameOwner.symm

theorem wellFormed_revocation {current : MembershipState} {references : List StateAndRef}
    (party : Party) (contents : input.membership? = some current)
    (inShape : input.state.InShape)
    (speaks : references = [] ∨ ∃ own, references = [own] ∧ coordinator.SpeaksBy own) :
    ((coordinator.revocationPlan input party references).draft now).WellFormed
      .membership ⟨.membership .revoke, coordinator.transitionSigners party⟩ := by
  refine Transaction.wellFormed_of_step (some input) none rfl rfl (.inl rfl) rfl rfl
    ?consumed ?created ?succeeds ?ownerKept (initiated_of_authority rfl contents speaks)
  case consumed =>
    rintro _ ⟨⟩
    exact ⟨by rw [ContractState.membership?_eq_some_iff.1 contents]; rfl, inShape⟩
  case created => rintro _ ⟨⟩
  case succeeds | ownerKept => rintro _ _ _ ⟨⟩

theorem wellFormed_creation (proposal : GroupProposal) (ids : FreshIds)
    (speaks : coordinator.SpeaksBy own) :
    ((coordinator.groupPlan proposal ids own).draft now).WellFormed .group
      ⟨.group .create, owningKeys (coordinator.proposedGroup proposal ids now).participants⟩ := by
  refine Transaction.wellFormed_of_step none
    (some (.ofGroup (coordinator.proposedGroup proposal ids now))) rfl rfl (.inr rfl) rfl rfl
    ?consumed ?created ?succeeds ?ownerKept (speaks.initiated rfl)
  case created =>
    rintro _ ⟨⟩
    exact ⟨rfl, rfl, UInt64.le_refl _⟩
  case consumed | succeeds | ownerKept => rintro _ ⟨⟩

theorem wellFormed_modification {current : GroupState} (change : GroupChange)
    (contents : input.group? = some current) (inShape : input.state.InShape)
    (speaks : coordinator.SpeaksBy own) :
    ((groupChangePlan input current change own).draft now).WellFormed .group
      ⟨.group .modify, owningKeys
        (current.participants.union (evolvedGroup current change now).participants)⟩ := by
  have isGroup := ContractState.group?_eq_some_iff.1 contents
  refine Transaction.wellFormed_of_step (some input)
    (some (.ofGroup (evolvedGroup current change now))) rfl rfl (.inl rfl) rfl rfl
    ?consumed ?created ?succeeds ?ownerKept (speaks.initiated rfl)
  case consumed =>
    rintro _ ⟨⟩
    exact ⟨by rw [isGroup]; rfl, inShape⟩
  case created =>
    rintro _ ⟨⟩
    exact ⟨rfl, inShape_evolvedGroup now contents inShape change⟩
  case succeeds =>
    rintro _ ⟨⟩ _ ⟨⟩
    rw [isGroup]
    exact evolvedGroup_succeeds current change now
  case ownerKept =>
    rintro _ ⟨⟩ _ ⟨⟩ old new isOld
    cases isGroup.symm.trans isOld

theorem wellFormed_exit {current : GroupState} (contents : input.group? = some current)
    (inShape : input.state.InShape) (speaks : coordinator.SpeaksBy own) :
    ((groupExitPlan input current own).draft now).WellFormed .group
      ⟨.group .exit, owningKeys current.participants⟩ := by
  refine Transaction.wellFormed_of_step (some input) none rfl rfl (.inl rfl) rfl rfl
    ?consumed ?created ?succeeds ?ownerKept (speaks.initiated rfl)
  case consumed =>
    rintro _ ⟨⟩
    exact ⟨by rw [ContractState.group?_eq_some_iff.1 contents]; rfl, inShape⟩
  case created => rintro _ ⟨⟩
  case succeeds | ownerKept => rintro _ _ _ ⟨⟩

end Drafts

namespace Plans

variable {coordinator : Coordinator} {ids : FreshIds} {view : View Ledger} {request : Request}
  {plan : Plan} (plans : coordinator.Plans ids view request plan)

include plans

theorem unsigned (now : Timestamp) : (plan.draft now).signatures = [] := by
  cases plans <;> rfl

theorem inShape_outputs (inShape : ∀ recorded, view.Shows recorded → recorded.state.InShape)
    (now : Timestamp) : ∀ output ∈ (plan.draft now).outputs, output.InShape := by
  cases plans with
  | found founding networkId =>
      exact List.forall_mem_cons.2 ⟨⟨rfl, UInt64.le_refl _⟩,
        List.forall_mem_singleton.2 ⟨rfl, UInt64.le_refl _⟩⟩
  | apply application => exact List.forall_mem_singleton.2 ⟨rfl, UInt64.le_refl _⟩
  | change shown contents speaks =>
      exact List.forall_mem_singleton.2
        (inShape_evolvedMembership now contents (inShape _ shown) _)
  | revoke => exact List.forall_mem_nil _
  | createGroup => exact List.forall_mem_singleton.2 ⟨rfl, UInt64.le_refl _⟩
  | modifyGroup shown contents speaks =>
      exact List.forall_mem_singleton.2 (inShape_evolvedGroup now contents (inShape _ shown) _)
  | exitGroup => exact List.forall_mem_nil _

/-- Whatever asks for authority is proposed as its contract asks for. -/
theorem wellFormed (inShape : ∀ recorded, view.Shows recorded → recorded.state.InShape)
    (needs : request.needsInitiator) (now : Timestamp) :
    ∃ kind command, (plan.draft now).WellFormed kind command := by
  cases plans with
  | found | apply => cases needs
  | change shown contents speaks =>
      exact ⟨_, _, wellFormed_transition now _ _ contents (inShape _ shown) speaks⟩
  | revoke shown contents speaks =>
      exact ⟨_, _, wellFormed_revocation now _ contents (inShape _ shown) speaks⟩
  | createGroup speaks => exact ⟨_, _, wellFormed_creation now _ _ speaks⟩
  | modifyGroup shown contents speaks =>
      exact ⟨_, _, wellFormed_modification now _ contents (inShape _ shown) speaks⟩
  | exitGroup shown contents speaks =>
      exact ⟨_, _, wellFormed_exit now contents (inShape _ shown) speaks⟩

end Plans

end Coordinator

end Consortium
