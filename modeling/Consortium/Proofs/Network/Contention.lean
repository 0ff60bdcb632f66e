import Consortium.Proofs.Network.Distinct

/-!
Requests that contend for the same thing. Its plan was made on the ledger as it stood, and what the
plan brings in may be brought in by others by the time it is recorded. The locks rule that out as
far as any two that bring in the same thing claim a key in common.
-/

namespace Consortium

variable {κ : Type} {index : ContractState → Option κ}

/-- The checks of some request led to the plan, whatever the ledger was. -/
def Plan.IsPlanned [Suite] (plan : Plan) : Prop :=
  ∃ (coordinator : Coordinator) (request : Request) (ids : FreshIds) (ledger : Ledger),
    coordinator.plan request ids ledger = .ok plan

theorem Coordinator.few_outputs [Suite] {coordinator : Coordinator} {request : Request}
    {ids : FreshIds} {ledger : Ledger} {plan : Plan}
    (planned : coordinator.plan request ids ledger = .ok plan) :
    (∃ founding, request = .found founding) ∨
      ∀ now, (plan.draft now).outputs.length ≤ 1 := by
  cases request with
  | found founding => exact .inl ⟨founding, rfl⟩
  | apply application =>
      obtain ⟨_, _, _, rfl⟩ := planApplication_eq_ok_iff.1 planned
      exact .inr fun now => Nat.le_refl 1
  | change networkId party change =>
      obtain ⟨_, _, _, _, _, _, rfl⟩ := planTransition_eq_ok_iff.1 planned
      exact .inr fun now => Nat.le_refl 1
  | revoke networkId party =>
      obtain ⟨_, _, _, _, rfl⟩ := planRevocation_eq_ok_iff.1 planned
      exact .inr fun now => Nat.zero_le 1
  | createGroup proposal =>
      obtain ⟨_, _, _, _, _, rfl⟩ := planGroup_eq_ok_iff.1 planned
      exact .inr fun now => Nat.le_refl 1
  | modifyGroup id change =>
      obtain ⟨_, _, _, _, _, _, _, _, rfl⟩ := planGroupChange_eq_ok_iff.1 planned
      exact .inr fun now => Nat.le_refl 1
  | exitGroup id =>
      obtain ⟨_, _, _, _, _, _, rfl⟩ := planGroupExit_eq_ok_iff.1 planned
      exact .inr fun now => Nat.zero_le 1

namespace Session

/-- What a plan brings in is not on the ledger, and whoever is about to bring it in as well has
claimed a key that the plan claims too. -/
structure Shielded (index : ContractState → Option κ) (ledger : Ledger) (inFlight : List Task)
    (plan : Plan) : Prop where
  distinguishes : plan.Distinguishes index
  vacant : ∀ key, plan.Introduces index key → ¬ ledger.Occupies index key
  contested : ∀ key, plan.Introduces index key → ∀ other ∈ inFlight,
    other.plan.Introduces index key → ∃ claim ∈ plan.claims, claim ∈ other.plan.claims

variable {σ : Type} [LockStore σ] [LawfulLockStore σ] [Suite] {contracts : Registry} {locks : σ}
  {clock : Timestamp} {permitted : Session σ → Event σ → Prop}

omit [LawfulLockStore σ] in
theorem Reaches.foldl {start session : Session σ} (reaches : Reaches permitted start session)
    {events : List (Event σ)} (permits : ∀ event ∈ events, ∀ session, permitted session event) :
    Reaches permitted start (events.foldl step session) := by
  induction events generalizing session with
  | nil => exact reaches
  | cons event rest ih =>
      obtain ⟨first, others⟩ := List.forall_mem_cons.1 permits
      exact ih (reaches.next (first session)) others

theorem Moves.exclusive {session next : Session σ} {event : Event σ}
    (moves : Moves session event next) (orderly : Orderly session.inFlight session.locks)
    (shielded : ∀ coordinator request ids plan, event = .launch coordinator request ids →
      coordinator.plan request ids session.ledger = .ok plan →
        Shielded index session.ledger session.inFlight plan)
    (exclusive : Exclusive index session.ledger session.inFlight) :
    Exclusive index next.ledger next.inFlight := by
  cases moves with
  | launched isLaunch launched =>
      cases launched with
      | ended untouched _ => exact exclusive.restate (congrArg Ledger.unconsumed untouched)
      | @waits services task untouched planned _ _ claims _ foreign =>
          obtain ⟨distinguishes, vacant, contested⟩ := shielded _ _ _ _ isLaunch planned
          refine (exclusive.cons distinguishes vacant ?_).restate
            (congrArg Ledger.unconsumed untouched)
          intro other isOther key introduces otherIntroduces
          obtain ⟨claim, isClaim, isOthers⟩ :=
            contested key introduces other isOther otherIntroduces
          -- The other request holds the key, so this one cannot have come to hold it.
          rw [claims, List.mem_reverse] at isClaim
          rw [orderly.claims other isOther, List.mem_reverse] at isOthers
          have occupied := (orderly.secured other isOther).occupied claim isOthers
          exact (foreign claim occupied).notHeld isClaim
  | left found settles _ => exact exclusive.settle found settles
  | @outside services keyring untouched _ =>
      have same : services.platform.unconsumed = session.ledger.unconsumed := by rw [untouched]
      exact exclusive.restate same

theorem Reaches.exclusive {session : Session σ}
    (reaches : Reaches permitted (opened contracts locks clock) session)
    (spares : ∀ session event, permitted session event → session.SparesLocks event)
    (shielded : ∀ (session : Session σ) coordinator request ids plan,
      Reaches permitted (opened contracts locks clock) session →
      permitted session (.launch coordinator request ids) →
      coordinator.plan request ids session.ledger = .ok plan →
        Shielded index session.ledger session.inFlight plan) :
    Exclusive index session.ledger session.inFlight := by
  induction reaches with
  | start => exact .empty contracts
  | @next session event earlier permits ih =>
      have orderly := earlier.orderly spares
      refine (step_moves orderly (spares _ _ permits)).exclusive orderly ?_ ih
      intro coordinator request ids plan isLaunch planned
      subst isLaunch
      exact shielded session coordinator request ids plan earlier permits planned

theorem Moves.isPlanned {session next : Session σ} {event : Event σ}
    (moves : Moves session event next) (planned : ∀ task ∈ session.inFlight, task.plan.IsPlanned) :
    ∀ task ∈ next.inFlight, task.plan.IsPlanned := by
  cases moves with
  | @launched coordinator request ids next _ launched =>
      cases launched with
      | ended _ _ => exact planned
      | waits _ isPlan _ _ _ _ _ =>
          refine List.forall_mem_cons.2 ⟨?_, planned⟩
          exact ⟨coordinator, request, ids, session.ledger, isPlan⟩
  | left _ _ _ =>
      intro task isInFlight
      exact planned task (List.mem_of_mem_eraseIdx isInFlight)
  | outside _ _ _ => exact planned

theorem Reaches.isPlanned {session : Session σ}
    (reaches : Reaches permitted (opened contracts locks clock) session)
    (spares : ∀ session event, permitted session event → session.SparesLocks event) :
    ∀ task ∈ session.inFlight, task.plan.IsPlanned := by
  induction reaches with
  | start =>
      intro task isInFlight
      cases isInFlight
  | next earlier permits ih =>
      exact (step_moves (earlier.orderly spares) (spares _ _ permits)).isPlanned ih

end Session

end Consortium
