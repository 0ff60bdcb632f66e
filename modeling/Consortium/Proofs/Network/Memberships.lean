import Consortium.Proofs.Crypto.Transparent
import Consortium.Proofs.Network.Contention

/-!
Memberships. A party comes into a network by founding it or by applying to it. Two foundings of a
network contend for one lock, and two applications of a party to it for another, but a founding and
an application have no lock in common. A party that does not do both at once has at most one
membership of a network.
-/

namespace Consortium

/-- Who is a member, and of which network. -/
def ContractState.memberOf? (data : ContractState) : Option (NetworkId × Party) :=
  data.membership?.map fun membership => (membership.networkId, membership.owner)

theorem ContractState.membership_of_memberOf? {data : ContractState} {networkId : NetworkId}
    {party : Party} (member : data.memberOf? = some (networkId, party)) :
    ∃ membership, data.membership? = some membership ∧ membership.networkId = networkId ∧
      membership.owner = party := by
  obtain ⟨membership, isMembership, same⟩ := Option.map_eq_some_iff.1 member
  cases same
  exact ⟨membership, isMembership, rfl, rfl⟩

namespace Ledger

variable {ledger : Ledger} {networkId : NetworkId} {party : Party}

theorem not_occupies_of_membership (absent : ledger.membership networkId party = none) :
    ¬ ledger.Occupies ContractState.memberOf? (networkId, party) := by
  intro ⟨recorded, isRecorded, member⟩
  obtain ⟨membership, isMembership, sameNetwork, sameOwner⟩ :=
    ContractState.membership_of_memberOf? member
  have differs := List.find?_eq_none.1 absent recorded isRecorded
  change ¬ (recorded.state.data.membership?.any _) = true at differs
  rw [isMembership, Option.any_some] at differs
  exact differs (decide_eq_true ⟨sameNetwork, sameOwner⟩)

theorem not_occupies_of_networkExists (absent : ledger.networkExists networkId = false)
    (party : Party) : ¬ ledger.Occupies ContractState.memberOf? (networkId, party) := by
  intro ⟨recorded, isRecorded, member⟩
  obtain ⟨membership, isMembership, sameNetwork, _⟩ :=
    ContractState.membership_of_memberOf? member
  have nobody : ledger.memberships networkId = [] := by
    simpa [networkExists] using absent
  have differs := List.filter_eq_nil_iff.1 nobody recorded isRecorded
  change ¬ (recorded.state.data.membership?.any _) = true at differs
  rw [isMembership, Option.any_some] at differs
  exact differs (decide_eq_true sameNetwork)

end Ledger

namespace Plan

/-- The plan is to make the party a member under the lock of foundings. -/
structure Founds (plan : Plan) (networkId : NetworkId) (party : Party) : Prop where
  introduces : plan.Introduces ContractState.memberOf? (networkId, party)
  claims : .ofNetwork networkId ∈ plan.claims

/-- The plan is to make the party a member under the lock of applications. -/
structure AppliesTo (plan : Plan) (networkId : NetworkId) (party : Party) : Prop where
  introduces : plan.Introduces ContractState.memberOf? (networkId, party)
  claims : .ofPendingMembership networkId party ∈ plan.claims

/-- What the checks of a request establish about the members that its plan brings in. -/
structure BringsInMember (coordinator : Coordinator) (request : Request) (ids : FreshIds)
    (ledger : Ledger) (plan : Plan) (networkId : NetworkId) (party : Party) : Prop where
  vacant : ¬ ledger.Occupies ContractState.memberOf? (networkId, party)
  isOwn : party = coordinator.identity
  request : (∃ founding, request = .found founding ∧
      networkId = founding.networkId.getD (.ofUuid ids.network) ∧
      plan.Founds networkId party) ∨
    ∃ application, request = .apply application ∧ networkId = application.networkId ∧
      plan.AppliesTo networkId party

end Plan

section Signing

variable [Suite] {ledger : Ledger}

namespace Coordinator

variable {coordinator : Coordinator} {request : Request} {ids : FreshIds} {plan : Plan}

theorem distinguishes_members (planned : coordinator.plan request ids ledger = .ok plan) :
    plan.Distinguishes ContractState.memberOf? := by
  rcases few_outputs planned with ⟨founding, rfl⟩ | few
  · obtain ⟨_, _, rfl⟩ := planBootstrap_eq_ok_iff.1 planned
    intro now
    refine List.pairwise_pair.2 fun key _ isMember => ?_
    cases isMember
  · exact Plan.distinguishes_of_few few

omit [Suite] in
theorem memberOf?_evolvedMembership (current : MembershipState) (change : MembershipChange)
    (now : Timestamp) :
    (ContractState.membership (evolvedMembership current change now)).memberOf? =
      (ContractState.membership current).memberOf? := by
  cases change <;> rfl

theorem bringsInMember (planned : coordinator.plan request ids ledger = .ok plan)
    {networkId : NetworkId} {party : Party}
    (introduces : plan.Introduces ContractState.memberOf? (networkId, party)) :
    plan.BringsInMember coordinator request ids ledger networkId party := by
  cases request with
  | found founding =>
      obtain ⟨absent, _, rfl⟩ := planBootstrap_eq_ok_iff.1 planned
      obtain ⟨now, output, isOutput, member⟩ := introduces.exists_output
      rcases List.mem_cons.1 isOutput with rfl | isSecond
      · cases member
        refine ⟨Ledger.not_occupies_of_networkExists absent _, rfl, .inl ⟨founding, rfl, rfl, ?_⟩⟩
        exact ⟨introduces, List.mem_cons_self⟩
      · cases List.mem_singleton.1 isSecond
        cases member
  | apply application =>
      obtain ⟨_, absent, _, rfl⟩ := planApplication_eq_ok_iff.1 planned
      obtain ⟨now, output, isOutput, member⟩ := introduces.exists_output
      cases List.mem_singleton.1 isOutput
      cases member
      refine ⟨Ledger.not_occupies_of_membership absent, rfl, .inr ⟨application, rfl, rfl, ?_⟩⟩
      exact ⟨introduces, List.mem_singleton_self _⟩
  | change otherNetwork other change =>
      obtain ⟨input, current, _, _, isMembership, _, rfl⟩ := planTransition_eq_ok_iff.1 planned
      refine absurd introduces (Plan.not_introduces_of_kept ?_ _)
      intro now output isOutput key hasKey
      cases List.mem_singleton.1 isOutput
      refine ⟨input, List.mem_singleton_self _, ?_⟩
      change input.state.data.membership? = some current at isMembership
      rw [ContractState.memberOf?, isMembership]
      exact (memberOf?_evolvedMembership current change now).symm.trans hasKey
  | revoke otherNetwork other =>
      obtain ⟨_, _, _, _, rfl⟩ := planRevocation_eq_ok_iff.1 planned
      refine absurd introduces (Plan.not_introduces_of_kept ?_ _)
      intro now output isOutput
      cases isOutput
  | createGroup proposal =>
      obtain ⟨_, _, _, _, _, rfl⟩ := planGroup_eq_ok_iff.1 planned
      refine absurd introduces (Plan.not_introduces_of_kept ?_ _)
      intro now output isOutput key hasKey
      cases List.mem_singleton.1 isOutput
      cases hasKey
  | modifyGroup id change =>
      obtain ⟨_, _, _, _, _, _, _, _, rfl⟩ := planGroupChange_eq_ok_iff.1 planned
      refine absurd introduces (Plan.not_introduces_of_kept ?_ _)
      intro now output isOutput key hasKey
      cases List.mem_singleton.1 isOutput
      cases hasKey
  | exitGroup id =>
      obtain ⟨_, _, _, _, _, _, rfl⟩ := planGroupExit_eq_ok_iff.1 planned
      refine absurd introduces (Plan.not_introduces_of_kept ?_ _)
      intro now output isOutput
      cases isOutput

end Coordinator

namespace Session

variable {σ : Type} [LockStore σ] [LawfulLockStore σ]

/-- A party does not found a network while its application to it is in flight, and does not apply
to a network while it is founding it. -/
def JoinsOneWay (session : Session σ) : Event σ → Prop
  | .launch coordinator (.found founding) ids =>
      ∀ task ∈ session.inFlight,
        ¬ task.plan.AppliesTo (founding.networkId.getD (.ofUuid ids.network)) coordinator.identity
  | .launch coordinator (.apply application) _ =>
      ∀ task ∈ session.inFlight, ¬ task.plan.Founds application.networkId coordinator.identity
  | _ => True

structure Uncontested (session : Session σ) (event : Event σ) : Prop where
  spares : session.SparesLocks event
  oneWay : session.JoinsOneWay event

omit [LockStore σ] [LawfulLockStore σ] in
theorem shielded_members {session : Session σ} {coordinator : Coordinator} {request : Request}
    {ids : FreshIds} {plan : Plan} (isPlanned : ∀ task ∈ session.inFlight, task.plan.IsPlanned)
    (oneWay : session.JoinsOneWay (.launch coordinator request ids))
    (planned : coordinator.plan request ids session.ledger = .ok plan) :
    Shielded ContractState.memberOf? session.ledger session.inFlight plan where
  distinguishes := Coordinator.distinguishes_members planned
  vacant key introduces := (Coordinator.bringsInMember planned introduces).vacant
  contested key introduces other isOther otherIntroduces := by
    obtain ⟨networkId, party⟩ := key
    obtain ⟨_, _, _, _, otherPlanned⟩ := isPlanned other isOther
    have others := (Coordinator.bringsInMember otherPlanned otherIntroduces).request
    obtain ⟨_, rfl, own⟩ := Coordinator.bringsInMember planned introduces
    rcases own with ⟨founding, rfl, rfl, founds⟩ | ⟨application, rfl, rfl, applies⟩
    · rcases others with ⟨_, _, _, otherFounds⟩ | ⟨_, _, _, otherApplies⟩
      · exact ⟨_, founds.claims, otherFounds.claims⟩
      · exact absurd otherApplies (oneWay other isOther)
    · rcases others with ⟨_, _, _, otherFounds⟩ | ⟨_, _, _, otherApplies⟩
      · exact absurd otherFounds (oneWay other isOther)
      · exact ⟨_, applies.claims, otherApplies.claims⟩

/-- Two current memberships of a network never have the same owner, unless a party both founds a
network and applies to it at the same time. -/
theorem membership_eq_of_owner {contracts : Registry} {locks : σ} {clock : Timestamp}
    {session : Session σ} (reaches : Reaches Uncontested (opened contracts locks clock) session)
    {first second : StateAndRef} (isFirst : first ∈ session.ledger.states)
    (isSecond : second ∈ session.ledger.states) {firstMembership secondMembership : MembershipState}
    (firstHolds : first.membership? = some firstMembership)
    (secondHolds : second.membership? = some secondMembership)
    (sameNetwork : firstMembership.networkId = secondMembership.networkId)
    (sameOwner : firstMembership.owner = secondMembership.owner) : first = second := by
  have exclusive : Exclusive ContractState.memberOf? session.ledger session.inFlight := by
    refine reaches.exclusive (fun _ _ uncontested => uncontested.spares) ?_
    intro session coordinator request ids plan earlier uncontested planned
    have isPlanned := earlier.isPlanned fun _ _ uncontested => uncontested.spares
    exact shielded_members isPlanned uncontested.oneWay planned
  have firstMember : first.state.data.memberOf? =
      some (firstMembership.networkId, firstMembership.owner) := congrArg (Option.map _) firstHolds
  have secondMember : second.state.data.memberOf? =
      some (secondMembership.networkId, secondMembership.owner) :=
    congrArg (Option.map _) secondHolds
  rw [sameNetwork, sameOwner] at firstMember
  exact exclusive.distinguishes first isFirst second isSecond _ firstMember secondMember

end Session

end Signing

namespace Session

open Transparent

/-- Uuids that are used for one request only. -/
def drawnOnce (seed : UInt8) : FreshIds :=
  ⟨⟨.replicate 16 (5 * seed)⟩, ⟨.replicate 16 (5 * seed + 1)⟩, ⟨.replicate 16 (5 * seed + 2)⟩,
    fun index => ⟨.replicate 16 (5 * seed + 3 + UInt8.ofNat index)⟩⟩

def launchAs (party : Party) (seed : UInt8) (request : Request) (ids : UInt8) : Event LockTable :=
  .launch ⟨party, keys seed, @Registry.standard suite⟩ request (drawnOnce ids)

def foundNet : Request := .found ⟨some ⟨"net"⟩, none, none, none⟩

def applyToNet : Request := .apply ⟨⟨"net"⟩, founder, none⟩

def vacant : Session LockTable := opened (@Registry.standard suite) .empty ⟨1⟩

def founding : Session LockTable := @step _ _ suite vacant (launchAs founder 1 foundNet 1)

def founded : Session LockTable := @step _ _ suite founding (.resume 0)

def applying : Session LockTable := @step _ _ suite founded (launchAs joiner 2 applyToNet 2)

def applyingAgain : Session LockTable := @step _ _ suite applying (launchAs joiner 2 applyToNet 3)

def admitted : Session LockTable := @step _ _ suite applyingAgain (.resume 0)

set_option maxRecDepth 10000 in
theorem joiner_is_admitted_once :
    ∃ found listed, admitted.ledger.membership ⟨"net"⟩ joiner = some found ∧
      admitted.ledger.states[0]? = some listed ∧ found = listed := by
  have isFounding := @Reaches.next _ _ suite Uncontested _ _ (launchAs founder 1 foundNet 1)
    (@Reaches.start _ _ suite _ vacant) ⟨trivial, fun task isInFlight => nomatch isInFlight⟩
  have isFounded := @Reaches.next _ _ suite _ _ _ (.resume 0) isFounding ⟨trivial, trivial⟩
  have nobodyFounds : ∀ task ∈ founded.inFlight, .ofNetwork ⟨"net"⟩ ∉ task.plan.claims := by
    decide +kernel
  have isApplying := @Reaches.next _ _ suite _ _ _ (launchAs joiner 2 applyToNet 2) isFounded
    ⟨trivial, fun task isInFlight founds => nobodyFounds task isInFlight founds.claims⟩
  have stillNobody : ∀ task ∈ applying.inFlight, .ofNetwork ⟨"net"⟩ ∉ task.plan.claims := by
    decide +kernel
  have isApplyingAgain := @Reaches.next _ _ suite _ _ _ (launchAs joiner 2 applyToNet 3) isApplying
    ⟨trivial, fun task isInFlight founds => stillNobody task isInFlight founds.claims⟩
  have reaches : @Reaches _ _ suite Uncontested vacant admitted :=
    @Reaches.next _ _ suite _ _ _ (.resume 0) isApplyingAgain ⟨trivial, trivial⟩
  have ⟨foundMember, listedMember⟩ :
      (admitted.ledger.membership ⟨"net"⟩ joiner).bind
          (fun found => found.state.data.memberOf?) = some (⟨"net"⟩, joiner) ∧
        admitted.ledger.states[0]?.bind
          (fun listed => listed.state.data.memberOf?) = some (⟨"net"⟩, joiner) := by
    decide +kernel
  obtain ⟨found, isFound, isMember⟩ := Option.bind_eq_some_iff.1 foundMember
  obtain ⟨listed, isListed, isListedMember⟩ := Option.bind_eq_some_iff.1 listedMember
  obtain ⟨_, foundHolds, foundNetwork, foundOwner⟩ :=
    ContractState.membership_of_memberOf? isMember
  obtain ⟨_, listedHolds, listedNetwork, listedOwner⟩ :=
    ContractState.membership_of_memberOf? isListedMember
  refine ⟨found, listed, isFound, isListed, ?_⟩
  exact @membership_eq_of_owner suite _ _ _ _ _ _ admitted reaches found listed
    (List.mem_of_find?_eq_some isFound) (List.mem_of_getElem? isListed) _ _ foundHolds listedHolds
    (foundNetwork.trans listedNetwork.symm) (foundOwner.trans listedOwner.symm)

/-- While the application of the joiner is in flight, the founder leaves, and the joiner founds the
network that nobody is left in. -/
def rejoined : Session LockTable :=
  [launchAs founder 1 (.revoke ⟨"net"⟩ founder) 4, .resume 0, launchAs joiner 2 foundNet 5,
    .resume 0, .resume 0].foldl (@step _ _ suite) applying

def drawnUuids (session : Session LockTable) : List Uuid :=
  session.requests.flatMap fun (_, ids) =>
    [ids.network, ids.membership, ids.group, ids.lock 0, ids.lock 1]

set_option maxRecDepth 10000 in
theorem joiner_is_member_twice :
    @Reaches _ _ suite SparesLocks vacant rejoined ∧ rejoined.drawnUuids.Nodup ∧
      ∃ first ∈ rejoined.ledger.states, ∃ second ∈ rejoined.ledger.states,
        first.state.data.memberOf? = some (⟨"net"⟩, joiner) ∧
          second.state.data.memberOf? = some (⟨"net"⟩, joiner) ∧ first ≠ second := by
  refine ⟨?_, by decide +kernel⟩
  have applies : @Reaches _ _ suite SparesLocks vacant applying := by
    have starts := @Reaches.start _ _ suite SparesLocks vacant
    apply @Reaches.foldl _ _ suite _ _ _ starts
      [launchAs founder 1 foundNet 1, .resume 0, launchAs joiner 2 applyToNet 2]
    simp [launchAs, SparesLocks]
  apply @Reaches.foldl _ _ suite _ vacant applying applies
  simp [launchAs, SparesLocks]

end Session

end Consortium
