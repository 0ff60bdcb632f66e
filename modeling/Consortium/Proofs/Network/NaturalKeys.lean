import Consortium.Proofs.Identity.Spelling
import Consortium.Proofs.Network.Traffic

/-!
What requests are in flight for, and the lock keys that stand for it. A name is scoped to its
network by writing both with a slash between them. Since network ids and names may hold slashes
themselves, the text does not always show where the one ends; and of a party it shows the name, but
not the key.
-/

namespace Consortium

/-- What at most one request at a time should be in flight for. -/
inductive NaturalKey where
  | network (id : NetworkId)
  | group (uuid : Uuid)
  | groupName (networkId : NetworkId) (name : String)
  | pendingMembership (networkId : NetworkId) (party : Party)
deriving DecidableEq

namespace NaturalKey

def lockKey : NaturalKey → LockKey
  | .network id => .ofNetwork id
  | .group uuid => .ofGroup (.ofUuid uuid)
  | .groupName networkId name => .ofGroupName networkId name
  | .pendingMembership networkId party => .ofPendingMembership networkId party

end NaturalKey

/-! ### Names scoped to networks -/

/-- The second network id goes on with a slash where the first one ends, and takes in the beginning
of the first name. -/
def Straddles (networkId : NetworkId) (name : String) (other : NetworkId) (otherName : String) :
    Prop :=
  ∃ middle, other.text = networkId.text ++ "/" ++ middle ∧ name = middle ++ "/" ++ otherName

theorem scoped_of_straddles {networkId other : NetworkId} {name otherName : String}
    (straddles : Straddles networkId name other otherName) :
    networkId.text ++ "/" ++ name = other.text ++ "/" ++ otherName := by
  obtain ⟨middle, sameText, rfl⟩ := straddles
  rw [sameText]
  simp only [String.append_assoc]

theorem straddles_of_append {networkId other : NetworkId} {name otherName : String}
    {middle : List Char} (longer : other.text.toList = networkId.text.toList ++ middle)
    (rest : '/' :: name.toList = middle ++ '/' :: otherName.toList) :
    other = networkId ∧ otherName = name ∨ Straddles networkId name other otherName := by
  obtain ⟨text⟩ := networkId
  obtain ⟨otherText⟩ := other
  cases middle with
  | nil =>
      rw [List.append_nil] at longer
      have sameName := (List.cons.inj rest).2.symm
      exact .inl ⟨congrArg NetworkId.mk (String.toList_inj.1 longer), String.toList_inj.1 sameName⟩
  | cons slash middle =>
      obtain ⟨rfl, split⟩ := List.cons.inj rest
      refine .inr ⟨String.ofList middle, String.toList_inj.1 ?_, String.toList_inj.1 ?_⟩
      · simpa using longer
      · simpa using split

theorem scoped_eq_iff {networkId other : NetworkId} {name otherName : String} :
    networkId.text ++ "/" ++ name = other.text ++ "/" ++ otherName ↔
      (networkId = other ∧ name = otherName) ∨ Straddles networkId name other otherName ∨
        Straddles other otherName networkId name := by
  constructor
  · intro same
    have sameChars : networkId.text.toList ++ '/' :: name.toList =
        other.text.toList ++ '/' :: otherName.toList := by
      simpa using congrArg String.toList same
    rcases List.append_eq_append_iff.1 sameChars with ⟨_, longer, rest⟩ | ⟨_, longer, rest⟩
    · rcases straddles_of_append longer rest with ⟨rfl, rfl⟩ | straddles
      · exact .inl ⟨rfl, rfl⟩
      · exact .inr (.inl straddles)
    · rcases straddles_of_append longer rest with ⟨rfl, rfl⟩ | straddles
      · exact .inl ⟨rfl, rfl⟩
      · exact .inr (.inr straddles)
  · rintro (⟨rfl, rfl⟩ | straddles | straddles)
    · rfl
    · exact scoped_of_straddles straddles
    · exact (scoped_of_straddles straddles).symm

namespace NaturalKey

/-- Two natural keys of one kind that are told apart neither by where the id of the network ends nor
by the key of the party. -/
def Confused : NaturalKey → NaturalKey → Prop
  | .groupName networkId name, .groupName other otherName =>
      Straddles networkId name other otherName ∨ Straddles other otherName networkId name
  | .pendingMembership networkId party, .pendingMembership other otherParty =>
      (networkId = other ∧ party.name = otherParty.name ∧ party.owningKey ≠ otherParty.owningKey) ∨
        Straddles networkId party.name other otherParty.name ∨
        Straddles other otherParty.name networkId party.name
  | _, _ => False

theorem network_lockKey_eq_iff {id other : NetworkId} :
    (network id).lockKey = (network other).lockKey ↔
      network id = network other ∨ (network id).Confused (network other) := by
  change _ ↔ _ ∨ False
  rw [or_false, network.injEq]
  refine ⟨fun same => ?_, fun same => by rw [same]⟩
  cases id
  cases other
  exact congrArg NetworkId.mk (congrArg LockKey.payload same)

theorem group_lockKey_eq_iff {uuid other : Uuid} :
    (group uuid).lockKey = (group other).lockKey ↔
      group uuid = group other ∨ (group uuid).Confused (group other) := by
  change _ ↔ _ ∨ False
  rw [or_false, group.injEq]
  refine ⟨fun same => ?_, fun same => by rw [same]⟩
  exact Uuid.toText_injective (congrArg LockKey.payload same)

theorem groupName_lockKey_eq_iff {networkId other : NetworkId} {name otherName : String} :
    (groupName networkId name).lockKey = (groupName other otherName).lockKey ↔
      groupName networkId name = groupName other otherName ∨
        (groupName networkId name).Confused (groupName other otherName) := by
  rw [Confused, groupName.injEq, ← scoped_eq_iff]
  exact ⟨congrArg LockKey.payload, congrArg (LockKey.mk .groupName)⟩

theorem pendingMembership_lockKey_eq_iff {networkId other : NetworkId} {party otherParty : Party} :
    (pendingMembership networkId party).lockKey = (pendingMembership other otherParty).lockKey ↔
      pendingMembership networkId party = pendingMembership other otherParty ∨
        (pendingMembership networkId party).Confused (pendingMembership other otherParty) := by
  have samePayload : (pendingMembership networkId party).lockKey =
      (pendingMembership other otherParty).lockKey ↔
        networkId.text ++ "/" ++ party.name = other.text ++ "/" ++ otherParty.name :=
    ⟨congrArg LockKey.payload, congrArg (LockKey.mk .pendingMembership)⟩
  obtain ⟨name, key⟩ := party
  obtain ⟨otherName, otherKey⟩ := otherParty
  rw [samePayload, scoped_eq_iff, Confused, pendingMembership.injEq, Party.mk.injEq]
  by_cases sameKey : key = otherKey <;> simp [sameKey]

/-- The locks are the same exactly for the same natural key and for those confused with it. -/
theorem lockKey_eq_iff {left right : NaturalKey} :
    left.lockKey = right.lockKey ↔ left = right ∨ left.Confused right := by
  cases left <;> cases right
  case network.network => exact network_lockKey_eq_iff
  case group.group => exact group_lockKey_eq_iff
  case groupName.groupName => exact groupName_lockKey_eq_iff
  case pendingMembership.pendingMembership => exact pendingMembership_lockKey_eq_iff
  -- The locks of two kinds are never the same.
  all_goals
    refine iff_of_false (fun same => ?_) ?_
    · cases congrArg LockKey.kind same
    · rintro (⟨⟨⟩⟩ | confused)
      exact False.elim confused

end NaturalKey

/-! ### What requests are for -/

/-- What a request is for, with the answers of the platform at the time of its checks. -/
def Coordinator.naturalKeys {π : Type} [Platform π] (coordinator : Coordinator) (request : Request)
    (ids : FreshIds) (platform : π) : List NaturalKey :=
  match request with
  | .found founding =>
      .network (founding.networkId.getD (.ofUuid ids.network)) ::
        (founding.groupId.map fun id => .group id.uuid).toList
  | .apply application => [.pendingMembership application.networkId coordinator.identity]
  | .createGroup proposal =>
      (proposal.groupId.map fun id => .group id.uuid).toList ++
        (proposal.name.map (.groupName proposal.networkId)).toList
  | .modifyGroup id change =>
      match Platform.groupById id platform with
      | .ok (some recorded) =>
          match recorded.group?, change.name with
          | some current, some name =>
              if current.name = some name then [] else [.groupName current.networkId name]
          | _, _ => []
      | _ => []
  | .change _ _ _ | .revoke _ _ | .exitGroup _ => []

namespace Coordinator

variable {π : Type} [Platform π] {coordinator : Coordinator} {request : Request} {ids : FreshIds}
  {platform : π}

theorem claims_eq_naturalKeys :
    coordinator.claims request ids platform =
      (coordinator.naturalKeys request ids platform).map NaturalKey.lockKey := by
  cases request with
  | found founding =>
      simp only [claims, naturalKeys]
      cases founding.groupId <;> rfl
  | apply application => rfl
  | change networkId party change => rfl
  | revoke networkId party => rfl
  | createGroup proposal =>
      simp only [claims, naturalKeys]
      cases proposal.groupId <;> cases proposal.name <;> rfl
  | modifyGroup id change =>
      simp only [claims, naturalKeys]
      rcases Platform.groupById id platform with _ | (_ | recorded)
      · rfl
      · rfl
      · dsimp only
        rcases recorded.group? with _ | current <;> rcases change.name with _ | name
        case some.some =>
          by_cases same : current.name = some name <;> simp [same, NaturalKey.lockKey]
        all_goals rfl
  | exitGroup id => rfl

/-- No request claims a key twice: those it claims are of different kinds. -/
theorem nodup_claims : (coordinator.claims request ids platform).Nodup := by
  cases request with
  | found founding =>
      simp only [claims]
      cases founding.groupId with
      | none => exact List.nodup_singleton _
      | some id => simp [LockKey.ofNetwork, LockKey.ofGroup]
  | apply application => exact List.nodup_singleton _
  | change networkId party change => exact List.nodup_nil
  | revoke networkId party => exact List.nodup_nil
  | createGroup proposal =>
      simp only [claims]
      cases proposal.groupId <;> cases proposal.name <;>
        simp [LockKey.ofGroup, LockKey.ofGroupName]
  | modifyGroup id change =>
      simp only [claims]
      split
      · split
        · split
          · exact List.nodup_nil
          · exact List.nodup_singleton _
        · exact List.nodup_nil
      · exact List.nodup_nil
  | exitGroup id => exact List.nodup_nil

end Coordinator

end Consortium
