import Consortium.Proofs.Contract.Approval
import Consortium.Proofs.Contract.Authority
import Consortium.Proofs.Network.Faultless

/-!
Outsiders. A coordinator signs whatever it proposes, but for a change of a group only those who take
part in it have to sign. If nobody who does has the key of the coordinator, its own signature is one
too many, and the contract finds this before it looks at who the initiator is.
-/

namespace Consortium

theorem Coordinator.mem_owningKeys {parties : SortedSet Party} {key : PublicKey} :
    key ∈ owningKeys parties ↔ ∃ party ∈ parties, party.owningKey = key := by
  rw [owningKeys, SortedSet.mem_ofList, List.mem_map]
  rfl

/-! ### An initiator who does not take part -/

/-- What a party is told that changes a group without taking part in it. -/
inductive ValidationError.TurnsAway (command : GroupCommand) : ValidationError → Prop
  | authorization (failure : AuthorizationError) : TurnsAway command (.authorization failure)
  | signerMismatch (missing unexpected : List PublicKey) :
      TurnsAway command (.signerMismatch missing unexpected)
  | noChange (modifies : command = .modify) :
      TurnsAway command (.rejected "Group.Modify"
        "group modification must change the name or the participants")

def TurnedAway {α : Type} (command : GroupCommand) (check : Except ValidationError α) : Prop :=
  ∃ failure, check = .error failure ∧ failure.TurnsAway command

namespace TurnedAway

variable {α β : Type} {command : GroupCommand}

theorem bind {check : Except ValidationError α} (turnedAway : TurnedAway command check)
    (next : α → Except ValidationError β) : TurnedAway command (check >>= next) := by
  obtain ⟨failure, fails, turnsAway⟩ := turnedAway
  refine ⟨failure, ?_, turnsAway⟩
  rw [fails]
  rfl

variable {condition : Prop} [Decidable condition] {refusal : ValidationError}

theorem require (fails : ¬ condition) (turnsAway : refusal.TurnsAway command) :
    TurnedAway command (require condition refusal) :=
  ⟨refusal, require_eq_error_iff.2 ⟨fails, rfl⟩, turnsAway⟩

theorem require_bind {next : Unit → Except ValidationError α}
    (turnsAway : refusal.TurnsAway command) (later : TurnedAway command (next ())) :
    TurnedAway command (Consortium.require condition refusal >>= next) := by
  by_cases holds : condition
  · rw [require_eq_ok_iff.2 holds]
    exact later
  · exact (require holds turnsAway).bind next

theorem groupAuthority {tx : Transaction} {required : Command} {evolved : GroupState}
    {initiator : MembershipState} (resolved : tx.resolveInitiator = .ok initiator)
    (absent : initiator.owner ∉ evolved.participants) :
    TurnedAway command (GroupRules.verifyAuthority tx required evolved) := by
  unfold GroupRules.verifyAuthority verifyInitiator
  rw [resolved]
  refine bind ?_ _
  refine require_bind (.authorization _) (require_bind (.authorization _)
    (require_bind (.authorization _) ?_))
  exact (require absent (.authorization _)).bind _

end TurnedAway

theorem Transaction.inputsOf_group_of_only {tx : Transaction} {input : StateAndRef}
    {group : GroupState} (consumes : tx.inputs = [input]) (contents : input.group? = some group) :
    tx.inputsOf .group = [input] := by
  rw [inputsOf, consumes, List.filter_singleton, ContractState.group?_eq_some_iff.1 contents]
  rfl

/-! ### One signature too many -/

theorem SortedSet.toList_difference_of_subset {α : Type} [Ord α] [DecidableEq α]
    {left right : SortedSet α}
    (subset : ∀ element ∈ left, element ∈ right) : (left.difference right).toList = [] := by
  refine List.eq_nil_iff_forall_not_mem.2 fun element member => ?_
  obtain ⟨isLeft, notRight⟩ := mem_difference.1 member
  exact notRight (subset element isLeft)

theorem SortedSet.toList_difference_of_one {α : Type} [Ord α] [Std.LawfulEqOrd α] [Std.TransOrd α]
    [DecidableEq α] {left right : SortedSet α} {only : α} (absent : only ∉ right)
    (others : ∀ element, element ∈ left ↔ element = only ∨ element ∈ right) :
    (left.difference right).toList = [only] := by
  have single : left.difference right = .singleton only := by
    refine ext fun element => ?_
    rw [mem_difference, others, mem_singleton, or_and_right, and_not_self_iff, or_false]
    refine and_iff_left_of_imp ?_
    rintro rfl
    exact absent
  rw [single]
  rfl

section Signing

variable [Suite]

/-- The coordinator's own signature is the only one that can be out of place. -/
theorem Plan.Cosigned.signerMismatch_iff {plan : Plan} {coordinator : Coordinator}
    {signed : Transaction} {kind : EntityKind} {command : Command}
    (cosigned : plan.Cosigned coordinator signed) (genuine : coordinator.Genuine)
    (wellFormed : signed.WellFormed kind command) {missing unexpected : List PublicKey} :
    Registry.standard.verify signed = .error (.signerMismatch missing unexpected) ↔
      coordinator.identity.owningKey ∉ command.signers ∧ missing = [] ∧
        unexpected = [coordinator.identity.owningKey] := by
  have signers (key : PublicKey) := cosigned.mem_signers_iff genuine wellFormed.commands key
  have fits := cosigned.signers_eq_iff genuine wellFormed.commands
  by_cases required : coordinator.identity.owningKey ∈ command.signers
  · refine iff_of_false (fun fails => ?_) fun ⟨notRequired, _⟩ => notRequired required
    cases wellFormed.isRefusal_of_verify (fits.2 required) fails
  · have differ : signed.signers ≠ command.signers := mt fits.1 required
    rw [wellFormed.verify_of_signers_ne differ,
      SortedSet.toList_difference_of_subset fun key isRequired => (signers key).2 (.inr isRequired),
      SortedSet.toList_difference_of_one required signers, Except.error.injEq,
      ValidationError.signerMismatch.injEq]
    constructor
    · rintro ⟨rfl, rfl⟩
      exact ⟨required, rfl, rfl⟩
    · rintro ⟨_, rfl, rfl⟩
      exact ⟨rfl, rfl⟩

end Signing

/-! ### The signatures on a change of a group -/

/-- What a request does to a group that is there already. -/
def Request.changeOfGroup? : Request → Option GroupCommand
  | .modifyGroup _ _ => some .modify
  | .exitGroup _ => some .exit
  | .found _ | .apply _ | .change _ _ _ | .revoke _ _ | .createGroup _ => none

/-- Somebody with the key takes part in a state, before the transaction or after it. -/
def Transaction.Involves (tx : Transaction) (key : PublicKey) : Prop :=
  ∃ state ∈ tx.touched, ∃ party ∈ state.data.participants, party.owningKey = key

namespace Coordinator.Plans

variable {coordinator : Coordinator} {ids : FreshIds} {view : View Ledger} {request : Request}
  {plan : Plan} (plans : coordinator.Plans ids view request plan)
  (seen : ∀ recorded, view.Shows recorded → recorded.state.InShape)

include plans seen

theorem required_iff (needs : request.needsInitiator) (now : Timestamp) :
    ∃ kind command, (plan.draft now).WellFormed kind command ∧
      (coordinator.identity.owningKey ∈ command.signers ↔
        (request.changeOfGroup?.isSome →
          (plan.draft now).Involves coordinator.identity.owningKey)) := by
  cases plans with
  | found | apply => cases needs
  | change shown contents speaks =>
      exact ⟨_, _, wellFormed_transition now _ _ contents (seen _ shown) speaks,
        iff_of_true (SortedSet.mem_ofList.2 List.mem_cons_self) nofun⟩
  | revoke shown contents speaks =>
      exact ⟨_, _, wellFormed_revocation now _ contents (seen _ shown) speaks,
        iff_of_true (SortedSet.mem_ofList.2 List.mem_cons_self) nofun⟩
  | createGroup speaks =>
      refine ⟨_, _, wellFormed_creation now _ _ speaks, iff_of_true ?_ nofun⟩
      exact mem_owningKeys.2
        ⟨coordinator.identity, SortedSet.mem_ofList.2 List.mem_cons_self, rfl⟩
  | @modifyGroup id change input own current shown contents speaks =>
      refine ⟨_, _, wellFormed_modification now change contents (seen _ shown) speaks, ?_⟩
      have isGroup := ContractState.group?_eq_some_iff.1 contents
      rw [mem_owningKeys]
      constructor
      · intro ⟨party, takesPart, hasKey⟩ _
        rcases SortedSet.mem_union.1 takesPart with before | after
        · exact ⟨input.state, List.mem_cons_self, party, by rw [isGroup]; exact before, hasKey⟩
        · exact ⟨_, List.mem_cons_of_mem _ List.mem_cons_self, party, after, hasKey⟩
      · intro involved
        obtain ⟨state, touched, party, takesPart, hasKey⟩ := involved rfl
        refine ⟨party, SortedSet.mem_union.2 ?_, hasKey⟩
        rcases List.mem_pair.1 touched with rfl | rfl
        · rw [isGroup] at takesPart
          exact .inl takesPart
        · exact .inr takesPart
  | @exitGroup id input own current shown contents speaks =>
      refine ⟨_, _, wellFormed_exit now contents (seen _ shown) speaks, ?_⟩
      have isGroup := ContractState.group?_eq_some_iff.1 contents
      rw [mem_owningKeys]
      constructor
      · intro ⟨party, takesPart, hasKey⟩ _
        exact ⟨input.state, List.mem_cons_self, party, by rw [isGroup]; exact takesPart, hasKey⟩
      · intro involved
        obtain ⟨state, touched, party, takesPart, hasKey⟩ := involved rfl
        cases List.mem_singleton.1 touched
        rw [isGroup] at takesPart
        exact ⟨party, takesPart, hasKey⟩

variable [Suite] {signed : Transaction}

theorem signerMismatch_iff (genuine : coordinator.Genuine)
    (cosigned : plan.Cosigned coordinator signed) {missing unexpected : List PublicKey} :
    Registry.standard.verify signed = .error (.signerMismatch missing unexpected) ↔
      request.changeOfGroup?.isSome ∧ ¬ signed.Involves coordinator.identity.owningKey ∧
        missing = [] ∧ unexpected = [coordinator.identity.owningKey] := by
  cases needs : request.needsInitiator with
  | false =>
      refine iff_of_false (fun fails => ?_) fun ⟨changes, _⟩ => ?_
      · cases (plans.accepted_of_issuance needs genuine cosigned).symm.trans fails
      · revert needs changes
        cases request <;> simp [Request.needsInitiator, Request.changeOfGroup?]
  | true =>
      obtain ⟨now, proposes⟩ := cosigned.drafted
      obtain ⟨kind, command, wellFormed, required⟩ := plans.required_iff seen needs now
      change _ ↔ (_ → (plan.draft now).unsigned.Involves _) at required
      rw [← proposes] at required
      rw [cosigned.signerMismatch_iff genuine (wellFormed.of_unsigned proposes), required,
        Classical.not_imp, and_assoc]
      rfl

theorem turnedAway (cosigned : plan.Cosigned coordinator signed) {command : GroupCommand}
    (changes : request.changeOfGroup? = some command)
    (absent : ∀ state ∈ signed.evolved .group command.removes,
      coordinator.identity ∉ state.data.participants) :
    TurnedAway command (Registry.standard.verify signed) := by
  obtain ⟨now, proposes⟩ := cosigned.drafted
  obtain ⟨inputs, outputs, references, _⟩ := Transaction.contents_of_unsigned proposes
  cases plans with
  | found | apply | change | revoke | createGroup => cases changes
  | @modifyGroup id change input own current shown contents speaks =>
      cases changes
      have wellFormed :=
        (wellFormed_modification now change contents (seen _ shown) speaks).of_unsigned proposes
      have consumed : (signed.evolution GroupState).input = some current :=
        Transaction.evolution_input_of_only inputs contents
      have single : signed.outputsOf .group = [.ofGroup (evolvedGroup current change now)] := by
        rw [Transaction.outputsOf, outputs]
        rfl
      have created : (signed.evolution GroupState).output =
          some (evolvedGroup current change now) :=
        Transaction.evolution_output_of_only outputs rfl
      change ∀ state ∈ signed.outputsOf .group, _ at absent
      rw [single] at absent
      obtain ⟨initiator, isInitiator, isOwn⟩ := speaks
      have resolved := Transaction.resolveInitiator_eq_ok_iff.2
        ⟨own, .inl references, isInitiator⟩
      have missing := absent _ (List.mem_singleton_self _)
      rw [← isOwn] at missing
      rw [wellFormed.verify_modify rfl consumed created]
      exact .require_bind (.signerMismatch _ _)
        (.require_bind (.noChange rfl) (.groupAuthority resolved missing))
  | @exitGroup id input own current shown contents speaks =>
      cases changes
      have wellFormed :=
        (wellFormed_exit now contents (seen _ shown) speaks).of_unsigned proposes
      have consumed : (signed.evolution GroupState).input = some current :=
        Transaction.evolution_input_of_only inputs contents
      have single := Transaction.inputsOf_group_of_only inputs contents
      change ∀ state ∈ (signed.inputsOf .group).map StateAndRef.state, _ at absent
      rw [single] at absent
      obtain ⟨initiator, isInitiator, isOwn⟩ := speaks
      have resolved := Transaction.resolveInitiator_eq_ok_iff.2
        ⟨own, .inl references, isInitiator⟩
      have missing := absent _ (List.mem_singleton_self _)
      rw [← isOwn, ContractState.group?_eq_some_iff.1 contents] at missing
      rw [wellFormed.verify_exit rfl consumed]
      have noOutput : Consortium.require (signed.outputs.isEmpty)
          (.rejected "Group.Exit" "group exit must not produce any output") = .ok () := by
        rw [require_eq_ok_iff, outputs]
        rfl
      refine .require_bind (.signerMismatch _ _) ?_
      change TurnedAway _ (Consortium.require _ _ >>= fun _ => GroupRules.verifyAuthority ..)
      rw [noOutput]
      exact .groupAuthority resolved missing

end Coordinator.Plans

/-! ### Operations that have got their signatures -/

namespace Operation

variable {π : Type}

/-- The proposal that all have signed and no contract has looked at yet. -/
def collected? (operation : Operation π) : Option Transaction :=
  match operation.stage with
  | .asked | .refused _ => none
  | .running _ task =>
      match task.progress with
      | .verifying signed => some signed
      | _ => none

theorem exists_of_collected? {operation : Operation π} {signed : Transaction}
    (collected : operation.collected? = some signed) :
    ∃ view task, operation.stage = .running view task ∧ task.progress = .verifying signed := by
  obtain ⟨coordinator, request, ids, stage⟩ := operation
  cases stage with
  | asked => cases collected
  | refused failure => cases collected
  | running view task =>
      unfold collected? at collected
      dsimp only at collected
      split at collected
      · rename_i progress
        cases collected
        exact ⟨view, task, rfl, progress⟩
      · cases collected

end Operation

section Runs

variable [Suite] {σ : Type} [LockStore σ]

theorem Task.rejects_verified_iff {task : Task} {signed : Transaction}
    (standard : task.coordinator.contracts = .standard)
    (collected : task.progress = .verifying signed) (services : Services Ledger σ)
    {failure : ValidationError} :
    (task.step services).1.progress = .releasing (.error (.rejected failure)) ↔
      Registry.standard.verify signed = .error failure := by
  unfold step
  rw [collected]
  change task.verified signed = _ ↔ _
  unfold verified
  rw [standard]
  cases Registry.standard.verify signed with
  | ok => exact iff_of_false nofun nofun
  | error other =>
      rw [Progress.releasing.injEq, Except.error.injEq, NetworkError.rejected.injEq,
        Except.error.injEq]

namespace Operation.Sound

variable {operation : Operation Ledger} {signed : Transaction} (sound : operation.Sound)

include sound

theorem exists_cosigned (collected : operation.collected? = some signed) :
    ∃ view task, operation.stage = .running view task ∧ task.progress = .verifying signed ∧
      operation.Pursues view task ∧ task.plan.Cosigned operation.coordinator signed := by
  obtain ⟨coordinator, request, ids, stage⟩ := operation
  obtain ⟨view, task, running, waits⟩ := exists_of_collected? collected
  cases running
  have pursues : Operation.Pursues _ view task := sound.stands
  refine ⟨view, task, rfl, waits, pursues, ?_⟩
  rw [← pursues.coordinator]
  cases pursues.sound with
  | @verifying other progress cosigned =>
      cases waits.symm.trans progress
      exact cosigned
  | locking progress | collecting progress | finalizing progress | rejected progress
  | ended progress => cases waits.symm.trans progress

/-- The contracts that look at the proposal in the next step are the standard ones. -/
theorem rejects_iff {state : Interleaving Ledger σ} {position : Nat} {after : Operation Ledger}
    (found : state.operations[position]? = some operation)
    (collected : operation.collected? = some signed)
    (stepped : (state.step (.advance position)).operations[position]? = some after)
    (failure : ValidationError) :
    after.failure? = some (.rejected failure) ↔
      Registry.standard.verify signed = .error failure := by
  obtain ⟨view, task, running, waits, pursues, _⟩ := sound.exists_cosigned collected
  have standard : task.coordinator.contracts = .standard := by
    rw [pursues.coordinator]
    exact sound.genuine.contracts
  obtain ⟨coordinator, request, ids, _⟩ := operation
  cases running
  rw [Interleaving.operations_advance found, Option.some.injEq] at stepped
  subst stepped
  rw [failure?_running, Task.rejects_verified_iff standard waits]

end Operation.Sound

namespace Interleaving

/-- A signature is only ever out of place where a coordinator changes a group in which nobody has
its key, and it is the one of the coordinator. A coordinator who does not take part in the group
that it leaves behind or gives up is turned away in any case. -/
theorem outsiders_are_turned_away {locks : σ} {clock : Timestamp} {state : Interleaving Ledger σ}
    (reaches : Reaches KeepsOrder (opened (.empty .standard) locks clock) state) :
    (∀ operation ∈ state.operations, ∀ missing unexpected,
      operation.failure? = some (.rejected (.signerMismatch missing unexpected)) →
        operation.request.changeOfGroup?.isSome ∧ missing = [] ∧
          unexpected = [operation.coordinator.identity.owningKey]) ∧
    ∀ position operation signed after, state.operations[position]? = some operation →
      operation.collected? = some signed →
      (state.step (.advance position)).operations[position]? = some after →
      (∀ missing unexpected,
        after.failure? = some (.rejected (.signerMismatch missing unexpected)) ↔
          operation.request.changeOfGroup?.isSome ∧
            ¬ signed.Involves operation.coordinator.identity.owningKey ∧
            missing = [] ∧ unexpected = [operation.coordinator.identity.owningKey]) ∧
      ∀ command, operation.request.changeOfGroup? = some command →
        (∀ evolved ∈ signed.evolved .group command.removes,
          operation.coordinator.identity ∉ evolved.data.participants) →
        ∃ failure, after.failure? = some (.rejected failure) ∧ failure.TurnsAway command := by
  have sound := reaches.sound
  constructor
  · intro operation member missing unexpected rejected
    have stands := sound.operations operation member
    obtain ⟨view, task, signed, pursues, cosigned, refused⟩ := stands.exists_refused rejected
    obtain ⟨changes, _, fits⟩ :=
      (pursues.plans.signerMismatch_iff pursues.seen stands.genuine cosigned).1 refused
    exact ⟨changes, fits⟩
  · intro position operation signed after found collected stepped
    have stands := sound.operations operation (List.mem_of_getElem? found)
    obtain ⟨view, task, _, _, pursues, cosigned⟩ := stands.exists_cosigned collected
    have rejects (failure : ValidationError) := stands.rejects_iff found collected stepped failure
    constructor
    · intro missing unexpected
      rw [rejects]
      exact pursues.plans.signerMismatch_iff pursues.seen stands.genuine cosigned
    · intro command changes absent
      obtain ⟨failure, refused, turnsAway⟩ :=
        pursues.plans.turnedAway pursues.seen cosigned changes absent
      exact ⟨failure, (rejects failure).2 refused, turnsAway⟩

end Interleaving

end Runs

section Specimen

open Transparent

namespace Interleaving

def bazaar : LinearId := .ofUuid ⟨Vector.replicate 16 7⟩

def acquainted : Interleaving Ledger LockTable :=
  letI := suite
  [keys 1, keys 2].foldl
    (fun state keys => state.step (.alterPlatform (state.services.platform.register keys))) blank

/-- The founder founds a network with a group and makes the joiner an operator. The joiner does not
take part in the group, and wants to give it a name. -/
def intrusion : Interleaving Ledger LockTable :=
  letI := suite
  let founded := acquainted.attempt (underStandard founder 1)
    (.found ⟨some ⟨"net"⟩, some bazaar, none, none⟩) (Session.idsOf 8) 8
  let applied := founded.attempt (underStandard joiner 2) (.apply ⟨⟨"net"⟩, founder, none⟩)
    (Session.idsOf 9) 6
  let admitted := applied.attempt (underStandard founder 1) (.change ⟨"net"⟩ joiner .activate)
    (Session.idsOf 10) 4
  let promoted := admitted.attempt (underStandard founder 1)
    (.change ⟨"net"⟩ joiner (.setRoles (.singleton .operator))) (Session.idsOf 11) 4
  promoted.attempt (underStandard joiner 2) (.modifyGroup bazaar ⟨some "Traders", none⟩)
    (Session.idsOf 12) 3

theorem acquainted_reached :
    letI := suite
    Reaches KeepsOrder blank acquainted := by
  let _ := suite
  have register {state : Interleaving Ledger LockTable} (reaches : Reaches KeepsOrder blank state)
      (seed : UInt8) : Reaches KeepsOrder blank
        (state.step (.alterPlatform (state.services.platform.register (keys seed)))) :=
    reaches.next trivial ⟨keys seed, signs_keys seed, rfl⟩
  exact register (register .start 1) 2

theorem intrusion_reached :
    letI := suite
    Reaches KeepsOrder blank intrusion :=
  reaches_attempt "Joiner" 2 rfl (reaches_attempt "Founder" 1 rfl
    (reaches_attempt "Founder" 1 rfl (reaches_attempt "Joiner" 2 rfl
      (reaches_attempt "Founder" 1 rfl acquainted_reached))))

set_option maxRecDepth 10000 in
theorem intrusion_outcome :
    letI := suite
    intrusion.operations[4]?.map (fun operation =>
        (operation.coordinator.identity, operation.request.changeOfGroup?)) =
          some (joiner, some .modify) ∧
      (intrusion.operations[4]?.bind Operation.collected?).any (fun signed =>
        decide (∀ evolved ∈ signed.evolved .group false, joiner ∉ evolved.data.participants)) ∧
      (intrusion.step (.advance 4)).operations[4]?.bind Operation.failure? =
        some (.rejected (.signerMismatch [] [joiner.owningKey])) := by
  decide +kernel

theorem intruder_is_turned_away :
    letI := suite
    ∃ operation signed after failure, intrusion.operations[4]? = some operation ∧
      operation.collected? = some signed ∧
      (intrusion.step (.advance 4)).operations[4]? = some after ∧
      ¬ signed.Involves operation.coordinator.identity.owningKey ∧
      after.failure? = some (.rejected failure) ∧ failure.TurnsAway .modify := by
  let _ := suite
  obtain ⟨asks, waits, fails⟩ := intrusion_outcome
  obtain ⟨signed, isSigned, absent⟩ := (Option.any_eq_true _ _).1 waits
  obtain ⟨operation, found, collected⟩ := Option.bind_eq_some_iff.1 isSigned
  obtain ⟨after, stepped, failed⟩ := Option.bind_eq_some_iff.1 fails
  rw [found, Option.map_some, Option.some.injEq, Prod.mk.injEq] at asks
  obtain ⟨isJoiner, modifies⟩ := asks
  obtain ⟨mismatch, turnsAway⟩ := (outsiders_are_turned_away intrusion_reached).2 4 operation
    signed after found collected stepped
  obtain ⟨_, uninvolved, _⟩ := (mismatch _ _).1 failed
  rw [isJoiner] at turnsAway
  obtain ⟨failure, rejected, reason⟩ := turnsAway .modify modifies (of_decide_eq_true absent)
  exact ⟨operation, signed, after, failure, found, collected, stepped, uninvolved, rejected, reason⟩

/-- The joiner is not told that it does not take part in the group. Its proposal comes back with
all signatures and is rejected for the one that the joiner has put on it itself. -/
theorem intruder_signs_too_much :
    letI := suite
    Reaches KeepsOrder blank intrusion ∧
      (intrusion.operations[4]?.bind Operation.collected?).any (fun signed =>
        decide (∀ evolved ∈ signed.evolved .group false, joiner ∉ evolved.data.participants)) ∧
      (intrusion.step (.advance 4)).operations[4]?.bind Operation.failure? =
        some (.rejected (.signerMismatch [] [joiner.owningKey])) :=
  ⟨intrusion_reached, intrusion_outcome.2⟩

end Interleaving

end Specimen

end Consortium
