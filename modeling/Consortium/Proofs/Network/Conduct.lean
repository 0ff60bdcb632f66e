import Consortium.Proofs.Network.Issuance
import Consortium.Proofs.Network.Rejection

/-!
What holds at all times on a ledger that was empty at first and that only coordinators write to.
Every state is in shape, so what a coordinator has seen is; a proposal out for verification is the
draft of its plan with the signatures of its coordinator and of all whom it requires; and a request
that is rejected was rejected by a contract that has seen such a proposal.
-/

namespace Consortium

/-! ### Those who take part -/

section Signing

variable [Suite]

/-- The coordinator signs with its own keys and verifies with the standard contracts. -/
structure Coordinator.Genuine (coordinator : Coordinator) : Prop where
  ownsKeys : coordinator.identity.owningKey = coordinator.keys.publicKey
  signs : coordinator.keys.Signs
  contracts : coordinator.contracts = .standard

theorem Coordinator.genuine_of_create {coordinator : Coordinator} {name : String} {keys : KeyPair}
    (signs : keys.Signs) (created : create name keys .standard = .ok coordinator) :
    coordinator.Genuine := by
  unfold create Party.create at created
  by_cases blank : Text.isBlank name
  · rw [if_pos blank] at created
    cases created
  · rw [if_neg blank] at created
    cases created
    exact ⟨rfl, signs, rfl⟩

structure Ledger.InShape (ledger : Ledger) : Prop where
  contracts : ledger.contracts = .standard
  states : ∀ recorded ∈ ledger.states, recorded.state.InShape
  keysFit : ledger.KeysFit

namespace Ledger.InShape

variable {ledger : Ledger} {tx : Transaction}

theorem empty : (Ledger.empty .standard).InShape where
  contracts := rfl
  states := nofun
  keysFit := keysFit_empty _

theorem register (inShape : ledger.InShape) {keys : KeyPair} (signs : keys.Signs) :
    (ledger.register keys).InShape :=
  ⟨inShape.contracts, inShape.states, inShape.keysFit.register signs⟩

theorem count (inShape : ledger.InShape) (proposals : Nat) :
    ({ ledger with proposals } : Ledger).InShape :=
  ⟨inShape.contracts, inShape.states, inShape.keysFit⟩

theorem record (inShape : ledger.InShape) (outputs : ∀ output ∈ tx.outputs, output.InShape) :
    (ledger.record tx).InShape where
  contracts := inShape.contracts
  states recorded member := by
    rcases mem_states_record member with isNew | ⟨isOld, _⟩
    · exact outputs _ (state_of_mem_recordedOutputs isNew)
    · exact inShape.states recorded isOld
  keysFit := inShape.keysFit

end Ledger.InShape

/-! ### Proposals -/

/-- The draft of a plan, signed by the coordinator and by all whom it requires. -/
structure Plan.Cosigned (plan : Plan) (coordinator : Coordinator) (signed : Transaction) :
    Prop where
  drafted : ∃ now, signed.unsigned = (plan.draft now).unsigned
  signers : ∀ key, key ∈ signed.signers ↔
    key = coordinator.keys.publicKey ∨ ∃ command ∈ signed.commands, key ∈ command.signers

omit [Suite] in
/-- Signatures aside, both say the same. -/
theorem Transaction.contents_of_unsigned {tx draft : Transaction}
    (same : tx.unsigned = draft.unsigned) :
    tx.inputs = draft.inputs ∧ tx.outputs = draft.outputs ∧ tx.references = draft.references ∧
      tx.commands = draft.commands := by
  injection same with inputs outputs references commands
  exact ⟨inputs, outputs, references, commands⟩

namespace Plan.Cosigned

variable {plan : Plan} {coordinator : Coordinator} {signed : Transaction}

theorem inShape_outputs (cosigned : plan.Cosigned coordinator signed)
    (inShape : ∀ now, ∀ output ∈ (plan.draft now).outputs, output.InShape) :
    ∀ output ∈ signed.outputs, output.InShape := by
  obtain ⟨now, proposes⟩ := cosigned.drafted
  rw [(Transaction.contents_of_unsigned proposes).2.1]
  exact inShape now

/-- What comes back from the ledger for the draft that the coordinator has signed. -/
theorem of_collectSignatures {ledger : Ledger} (fit : ledger.KeysFit)
    (signs : coordinator.keys.Signs) {now : Timestamp} (unsigned : (plan.draft now).signatures = [])
    (collected : (Ledger.collectSignatures ((plan.draft now).sign coordinator.keys) ledger).1 =
      .ok signed) : plan.Cosigned coordinator signed := by
  have same := Ledger.unsigned_of_signAll collected
  obtain ⟨_, _, _, commands⟩ := Transaction.contents_of_unsigned same
  refine ⟨⟨now, same⟩, fun key => ?_⟩
  rw [commands, fit.mem_signers_of_collectSignatures collected,
    Transaction.mem_signers_sign signs, Transaction.signers_eq_empty unsigned,
    Ledger.mem_requiredSigners, or_comm]
  exact or_congr_left (or_iff_left (SortedSet.notMem_empty key))

section Required

variable {command : Command} (cosigned : plan.Cosigned coordinator signed)
  (genuine : coordinator.Genuine) (commands : signed.commands = [command])

include cosigned genuine commands

theorem mem_signers_iff (key : PublicKey) :
    key ∈ signed.signers ↔
      key = coordinator.identity.owningKey ∨ key ∈ command.signers := by
  rw [cosigned.signers, commands, genuine.ownsKeys]
  simp only [List.mem_singleton, exists_eq_left]

/-- Only the coordinator may have signed without being asked to. -/
theorem signers_eq_iff :
    signed.signers = command.signers ↔ coordinator.identity.owningKey ∈ command.signers := by
  have signers (key : PublicKey) := cosigned.mem_signers_iff genuine commands key
  constructor
  · intro same
    rw [← same, signers]
    exact .inl rfl
  · intro isRequired
    refine SortedSet.ext fun key => (signers key).trans (or_iff_right_of_imp ?_)
    rintro rfl
    exact isRequired

end Required

end Plan.Cosigned

/-! ### Operations -/

namespace Task

/-- Where a request can stand, and how it can end. -/
inductive Sound (task : Task) : Prop
  | locking {pending : List LockKey} (progress : task.progress = .locking pending) : Sound task
  | collecting {now : Timestamp}
      (progress : task.progress =
        .collecting ((task.plan.draft now).sign task.coordinator.keys)) : Sound task
  | verifying {signed : Transaction} (progress : task.progress = .verifying signed)
      (cosigned : task.plan.Cosigned task.coordinator signed) : Sound task
  | finalizing {signed : Transaction} (progress : task.progress = .finalizing signed)
      (cosigned : task.plan.Cosigned task.coordinator signed)
      (accepted : Registry.standard.verify signed = .ok ()) : Sound task
  | rejected {signed : Transaction} {failure : ValidationError}
      (progress : task.progress = .releasing (.error (.rejected failure)))
      (cosigned : task.plan.Cosigned task.coordinator signed)
      (refused : Registry.standard.verify signed = .error failure) : Sound task
  | ended {result : Except NetworkError Outcome} (progress : task.progress = .releasing result)
      (never : NeverRejects result) : Sound task

section Steps

variable {σ : Type} [LockStore σ] {task : Task} {services : Services Ledger σ}

theorem step_coordinator : (task.step services).1.coordinator = task.coordinator := by
  unfold step
  split
  · unfold lock
    dsimp only
    split <;> rfl
  · rfl
  · rfl
  · rfl
  · rfl
  · unfold release
    split <;> rfl

theorem step_sound (genuine : task.coordinator.Genuine) (inShape : services.platform.InShape)
    (unsigned : ∀ now, (task.plan.draft now).signatures = [])
    (answers : ∀ record, NeverRejects (task.plan.outcome record)) (sound : task.Sound) :
    (task.step services).1.Sound := by
  obtain ⟨coordinator, plan, ids, held, progress⟩ := task
  cases sound with
  | @locking pending progress =>
      cases progress
      cases pending with
      | nil => exact .collecting rfl
      | cons key pending =>
          unfold step lock
          dsimp only
          split
          · exact .locking rfl
          · rename_i failure _ _ _
            refine .ended rfl (.error ?_)
            cases failure <;> nofun
  | @collecting now progress =>
      dsimp only at progress
      subst progress
      unfold step
      dsimp only [Platform.collectSignatures]
      split
      · rename_i collected
        exact .verifying rfl (.of_collectSignatures inShape.keysFit genuine.signs (unsigned now)
          collected)
      · rename_i failure uncollected
        refine .ended rfl (.error fun refusal same => ?_)
        rw [same] at uncollected
        exact NeverRejects.signAll _ _ _ refusal uncollected
  | @verifying signed progress cosigned =>
      cases progress
      unfold step verified
      dsimp only
      rw [genuine.contracts]
      cases verdict : Registry.standard.verify signed with
      | ok => exact .finalizing rfl cosigned verdict
      | error failure => exact .rejected rfl cosigned verdict
  | @finalizing signed progress cosigned accepted =>
      cases progress
      rw [← inShape.contracts] at accepted
      exact .ended rfl ((NeverRejects.finalize accepted).bind answers)
  | @rejected signed failure progress cosigned refused =>
      cases progress
      cases held with
      | nil => exact .rejected rfl cosigned refused
      | cons taken rest => exact .rejected rfl cosigned refused
  | @ended result progress never =>
      cases progress
      cases held with
      | nil => exact .ended rfl never
      | cons taken rest => exact .ended rfl never

end Steps

end Task

namespace Operation

/-- The task carries out the plan of the request, made on what the coordinator has seen. -/
structure Pursues (operation : Operation Ledger) (view : View Ledger) (task : Task) : Prop where
  coordinator : task.coordinator = operation.coordinator
  plans : operation.coordinator.Plans operation.ids view operation.request task.plan
  seen : ∀ recorded, view.Shows recorded → recorded.state.InShape
  sound : task.Sound

structure Sound (operation : Operation Ledger) : Prop where
  genuine : operation.coordinator.Genuine
  stands : match operation.stage with
    | .asked => True
    | .refused failure => ∀ refusal, failure ≠ .rejected refusal
    | .running view task => operation.Pursues view task

variable {σ : Type} {operation : Operation Ledger} {view : View Ledger} {task : Task}
  {services : Services Ledger σ}

theorem sound_check (genuine : operation.coordinator.Genuine)
    (seen : ∀ query, (view.moment query).InShape) : (operation.check view services).Sound := by
  unfold check
  dsimp only
  split
  · rename_i failure refused
    refine ⟨genuine, ?_⟩
    rintro refusal rfl
    rcases bind_eq_error_iff.1 refused with unplanned | ⟨_, _, started⟩
    · exact NeverRejects.plan _ _ _ refusal unplanned
    · cases started
  · rename_i task started
    obtain ⟨plan, planned, same⟩ := bind_eq_ok_iff.1 started
    cases same
    refine ⟨genuine, rfl, Coordinator.plans planned, ?_, .locking rfl⟩
    intro recorded ⟨query, isCurrent⟩
    exact (seen query).states recorded isCurrent

variable [LockStore σ]

theorem Pursues.step (pursues : operation.Pursues view task)
    (genuine : operation.coordinator.Genuine) (inShape : services.platform.InShape) :
    operation.Pursues view (task.step services).1 where
  coordinator := Task.step_coordinator.trans pursues.coordinator
  plans := by
    rw [(Task.step_plan task services).1]
    exact pursues.plans
  seen := pursues.seen
  sound := by
    refine Task.step_sound ?_ inShape pursues.plans.unsigned
      (NeverRejects.outcome pursues.plans) pursues.sound
    rw [pursues.coordinator]
    exact genuine

/-- The ledger only takes up what was drafted. -/
theorem Pursues.inShape_step (pursues : operation.Pursues view task)
    (inShape : services.platform.InShape) : (task.step services).2.platform.InShape := by
  rcases Task.step_ledger task services with
    ⟨proposals, _, counted⟩ | ⟨tx, finalizes, _, _, recorded⟩
  · rw [counted]
    exact inShape.count proposals
  · rw [recorded]
    refine inShape.record ?_
    have drafted := pursues.plans.inShape_outputs pursues.seen
    cases pursues.sound with
    | @finalizing signed progress cosigned _ =>
        cases finalizes.symm.trans progress
        exact cosigned.inShape_outputs drafted
    | locking progress | collecting progress | verifying progress | rejected progress
    | ended progress => cases finalizes.symm.trans progress

omit [Suite] in
theorem platform_cancel : (operation.cancel services).platform = services.platform := by
  unfold cancel
  split <;> rfl

end Operation

/-! ### Interleavings -/

namespace Interleaving

variable {σ : Type} [LockStore σ]

/-- Only coordinators are at work that are set up with the standard contracts and sign with their
own keys, and the ledger does not change except through them and by learning such keys. -/
def KeepsOrder (state : Interleaving Ledger σ) : Turn Ledger σ → Prop
  | .ask coordinator _ _ => ∃ name keys, keys.Signs ∧
      Coordinator.create name keys .standard = .ok coordinator
  | .alterPlatform ledger => ∃ keys, keys.Signs ∧ ledger = state.services.platform.register keys
  | .check _ _ | .advance _ | .drop _ | .setClock _ | .alterLocks _ => True

structure Sound (state : Interleaving Ledger σ) : Prop where
  history : ∀ ledger ∈ state.history, ledger.InShape
  operations : ∀ operation ∈ state.operations, operation.Sound

variable {state next : Interleaving Ledger σ}

omit [LockStore σ] in
theorem sound_opened (locks : σ) (clock : Timestamp) :
    (opened (.empty .standard) locks clock).Sound where
  history ledger isCurrent := by
    rw [List.mem_singleton.1 isCurrent]
    exact .empty
  operations _ member := nomatch member

theorem Moves.sound {turn : Turn Ledger σ} (moves : Moves state turn next)
    (sees : state.Sees turn) (keepsOrder : state.KeepsOrder turn) (sound : state.Sound) :
    next.Sound := by
  obtain ⟨history, operations⟩ := sound
  have current : state.services.platform.InShape := history _ List.mem_cons_self
  cases moves with
  | asked isTurn =>
      subst isTurn
      obtain ⟨name, keys, signs, created⟩ := keepsOrder
      refine ⟨history, List.forall_mem_append.2 ⟨operations, List.forall_mem_singleton.2 ?_⟩⟩
      exact ⟨Coordinator.genuine_of_create signs created, trivial⟩
  | @checked position view operation isTurn found isAsked =>
      subst isTurn
      refine ⟨history, fun other member => ?_⟩
      rcases List.mem_or_eq_of_mem_set member with earlier | rfl
      · exact operations other earlier
      · have genuine := (operations operation (List.mem_of_getElem? found)).genuine
        exact Operation.sound_check genuine fun query => history _ (sees query)
  | @advanced position operation view task isTurn found running =>
      have before := operations operation (List.mem_of_getElem? found)
      have pursues := before.stands
      rw [running] at pursues
      refine ⟨List.forall_mem_cons.2 ⟨pursues.inShape_step current, history⟩, ?_⟩
      intro other member
      rcases List.mem_or_eq_of_mem_set member with earlier | rfl
      · exact operations other earlier
      · obtain ⟨sameCoordinator, plans, seen, sound⟩ := pursues.step before.genuine current
        exact ⟨before.genuine, sameCoordinator, plans, seen, sound⟩
  | @dropped position operation isTurn found =>
      refine ⟨?_, fun other member => operations other (List.mem_of_mem_eraseIdx member)⟩
      rw [Interleaving.history, Operation.platform_cancel]
      exact history
  | clocked isTurn => exact ⟨history, operations⟩
  | altered isTurn =>
      subst isTurn
      obtain ⟨keys, signs, rfl⟩ := keepsOrder
      exact ⟨List.forall_mem_cons.2 ⟨current.register signs, history⟩, operations⟩
  | relocked isTurn => exact ⟨history, operations⟩
  | idle => exact ⟨history, operations⟩

theorem Reaches.sound {locks : σ} {clock : Timestamp}
    (reaches : Reaches KeepsOrder (opened (.empty .standard) locks clock) state) : state.Sound := by
  induction reaches with
  | start => exact sound_opened locks clock
  | next _ sees keepsOrder ih => exact (step_moves _ _).sound sees keepsOrder ih

end Interleaving

end Signing

end Consortium
