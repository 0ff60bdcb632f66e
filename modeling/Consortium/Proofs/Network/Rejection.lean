import Consortium.Proofs.Network.Drafts

/-!
What a rejection does not come from. The checks of a request, the locks, the collection of
signatures and the answer for what is recorded have failures of their own; that a transaction is
rejected is the verdict of a contract.
-/

namespace Consortium

/-! ### What does not reject -/

/-- The answer is not that a contract has refused the transaction. -/
def NeverRejects {α : Type} (answer : Except NetworkError α) : Prop :=
  ∀ failure, answer ≠ .error (.rejected failure)

namespace NeverRejects

variable {α β : Type}

theorem ok (value : α) : NeverRejects (.ok value) := nofun

theorem error {failure : NetworkError} (other : ∀ refusal, failure ≠ .rejected refusal) :
    NeverRejects (.error failure : Except NetworkError α) := by
  intro refusal same
  exact other refusal (Except.error.inj same)

theorem bind {answer : Except NetworkError α} {next : α → Except NetworkError β}
    (first : NeverRejects answer) (goesOn : ∀ value, NeverRejects (next value)) :
    NeverRejects (answer >>= next) := by
  intro refusal rejected
  rcases bind_eq_error_iff.1 rejected with now | ⟨value, _, later⟩
  · exact first refusal now
  · exact goesOn value refusal later

theorem map {answer : Except NetworkError α} (never : NeverRejects answer) (change : α → β) :
    NeverRejects (answer.map change) := by
  cases answer with
  | error failure => exact fun refusal same => never refusal (congrArg _ (Except.error.inj same))
  | ok value => exact ok _

theorem ask (answer : Except StoreError α) : NeverRejects (Platform.ask answer) := by
  cases answer with
  | error failure => exact error nofun
  | ok value => exact ok value

section Checks

variable {π : Type} [Platform π] {platform : π}

theorem requireMembership (networkId : NetworkId) (party : Party) :
    NeverRejects (Platform.requireMembership platform networkId party) := by
  refine bind (ask _) fun found => ?_
  cases found with
  | none => exact error nofun
  | some recorded => exact ok recorded

theorem requireFreeGroup (chosen : Option LinearId) :
    NeverRejects (Platform.requireFreeGroup platform chosen) := by
  cases chosen with
  | none => exact ok ()
  | some id =>
      refine bind (ask _) fun found => ?_
      cases found with
      | none => exact ok ()
      | some recorded => exact error nofun

theorem requireFreeName (networkId : NetworkId) (chosen : Option String) :
    NeverRejects (Platform.requireFreeName platform networkId chosen) := by
  cases chosen with
  | none => exact ok ()
  | some name =>
      refine bind (ask _) fun found => ?_
      cases found with
      | nil => exact ok ()
      | cons first rest => exact error nofun

theorem requireMembers (networkId : NetworkId) (parties : List Party) :
    NeverRejects (Coordinator.requireMembers platform networkId parties) := by
  induction parties with
  | nil => exact ok ()
  | cons party rest ih => exact (requireMembership networkId party).bind fun _ => ih

theorem requireGroupState (id : LinearId) :
    NeverRejects (Coordinator.requireGroupState platform id) := by
  refine bind (bind (ask _) fun found => ?found) fun recorded => ?contents
  case found =>
    cases found with
    | none => exact error nofun
    | some recorded => exact ok recorded
  case contents =>
    split
    · exact ok _
    · exact error nofun

theorem authority (coordinator : Coordinator) (networkId : NetworkId) (party : Party) :
    NeverRejects (coordinator.authority networkId party platform) := by
  unfold Coordinator.authority
  split
  · exact ok []
  · exact (requireMembership networkId coordinator.identity).bind fun own => ok [own]

/-- No request is rejected before there is a proposal. -/
theorem plan (coordinator : Coordinator) (request : Request) (ids : FreshIds) :
    NeverRejects (coordinator.plan request ids platform) := by
  cases request with
  | found founding =>
      refine bind (ask _) fun isThere => ?_
      cases isThere with
      | true => exact error nofun
      | false => exact (requireFreeGroup founding.groupId).bind fun _ => ok _
  | apply application =>
      refine bind (ask _) fun isThere => ?_
      cases isThere with
      | false => exact error nofun
      | true =>
          refine bind (ask _) fun own => ?_
          cases own with
          | some member => exact error nofun
          | none => exact (requireMembership _ _).bind fun _ => ok _
  | change networkId party change =>
      refine bind (requireMembership networkId party) fun input => ?_
      split
      · exact error nofun
      · exact (authority coordinator networkId party).bind fun _ => ok _
  | revoke networkId party =>
      refine bind (requireMembership networkId party) fun input => ?_
      exact (authority coordinator networkId party).bind fun _ => ok _
  | createGroup proposal =>
      refine bind (requireMembership _ _) fun own => ?_
      refine bind (requireFreeGroup _) fun _ => ?_
      refine bind (requireFreeName _ _) fun _ => ?_
      exact (requireMembers _ _).bind fun _ => ok _
  | modifyGroup id change =>
      refine bind (requireGroupState id) fun found => ?_
      refine bind (requireMembership _ _) fun own => ?_
      refine bind (requireFreeName _ _) fun _ => ?_
      exact (requireMembers _ _).bind fun _ => ok _
  | exitGroup id =>
      refine bind (requireGroupState id) fun found => ?_
      exact (requireMembership _ _).bind fun own => ok _

end Checks

theorem groupOf (record : FinalizedRecord) : NeverRejects (Plan.groupOf record) := by
  unfold Plan.groupOf
  split
  · exact ok _
  · exact error nofun

theorem membershipOf (record : FinalizedRecord) : NeverRejects (Plan.membershipOf record) := by
  unfold Plan.membershipOf
  split
  · exact ok _
  · exact error nofun

/-- Nor is one when it is recorded. -/
theorem outcome [Suite] {coordinator : Coordinator} {ids : FreshIds} {view : View Ledger}
    {request : Request} {plan : Plan} (plans : coordinator.Plans ids view request plan)
    (record : FinalizedRecord) : NeverRejects (plan.outcome record) := by
  cases plans with
  | found => exact (membershipOf record).bind fun _ => (groupOf record).bind fun _ => ok _
  | apply => exact (membershipOf record).map _
  | change => exact (membershipOf record).map _
  | revoke => exact ok _
  | createGroup => exact (groupOf record).map _
  | modifyGroup => exact (groupOf record).map _
  | exitGroup => exact ok _

theorem signAll [Suite] (ledger : Ledger) (keys : List PublicKey) (tx : Transaction) :
    NeverRejects (ledger.signAll tx keys) := by
  induction keys generalizing tx with
  | nil => exact ok tx
  | cons key rest ih =>
      unfold Ledger.signAll
      split
      · exact ih _
      · exact error nofun

/-- The ledger itself only rejects what its contracts refuse. -/
theorem finalize [Suite] {ledger : Ledger} {tx : Transaction}
    (accepted : ledger.contracts.verify tx = .ok ()) :
    NeverRejects (Ledger.finalize tx ledger).1 := by
  unfold Ledger.finalize
  rw [accepted]
  dsimp only
  split
  · exact error nofun
  · exact ok _

end NeverRejects

end Consortium
