import Consortium.Proofs.Network.Plan
import Consortium.Proofs.Network.Proposal

/-!
Sessions: any number of coordinators that share a ledger and a lock store. Each request runs in one
go until its proposal is about to be sent out for signatures. There it waits while others go on,
until it is resumed and runs to its end, or is dropped.
-/

namespace Consortium

structure Session (σ : Type) where
  services : Services Ledger σ
  /-- The requests that wait for signatures, the latest one first. -/
  inFlight : List Task
  /-- Every request so far with the uuids at its disposal, the latest one first. -/
  requests : List (Request × FreshIds)

inductive Event (σ : Type) where
  | launch (coordinator : Coordinator) (request : Request) (ids : FreshIds)
  | resume (position : Nat)
  | drop (position : Nat)
  | setClock (now : Timestamp)
  | register (keys : KeyPair)
  /-- The lock store is changed by something else than a request. -/
  | alterLocks (locks : σ)

namespace Session

section Running

variable {σ : Type} [LockStore σ] [Suite]

def opened (contracts : Registry) (locks : σ) (clock : Timestamp) : Session σ :=
  ⟨⟨Ledger.empty contracts, locks, clock⟩, [], []⟩

def ledger (session : Session σ) : Ledger := session.services.platform

def locks (session : Session σ) : σ := session.services.locks

def launch (session : Session σ) (coordinator : Coordinator) (request : Request)
    (ids : FreshIds) : Session σ :=
  let requests := (request, ids) :: session.requests
  match Task.start coordinator request ids session.services with
  | .error _ => { session with requests }
  | .ok task =>
      let (task, services) := task.runUntil Task.isCollecting session.services
      ⟨services, if task.isCollecting then task :: session.inFlight else session.inFlight, requests⟩

def resume (session : Session σ) (position : Nat) : Session σ :=
  match session.inFlight[position]? with
  | none => session
  | some task =>
      { session with
        services := (task.resume (fun _ => false) session.services).2
        inFlight := session.inFlight.eraseIdx position }

def drop (session : Session σ) (position : Nat) : Session σ :=
  match session.inFlight[position]? with
  | none => session
  | some task =>
      { session with
        services := task.cancel session.services
        inFlight := session.inFlight.eraseIdx position }

def step (session : Session σ) : Event σ → Session σ
  | .launch coordinator request ids => session.launch coordinator request ids
  | .resume position => session.resume position
  | .drop position => session.drop position
  | .setClock now => { session with services.clock := now }
  | .register keys => { session with services.platform := session.ledger.register keys }
  | .alterLocks locks => { session with services.locks := locks }

/-- The sessions that come about through events that are permitted where they happen. -/
inductive Reaches (permitted : Session σ → Event σ → Prop) (start : Session σ) :
    Session σ → Prop
  | start : Reaches permitted start start
  | next {session : Session σ} {event : Event σ} (earlier : Reaches permitted start session)
      (permits : permitted session event) : Reaches permitted start (session.step event)

end Running

/-! ### Locks -/

open LawfulLockStore Consortium.Task

section Locks

variable {σ : Type} [LockStore σ] [LawfulLockStore σ]

/-- The locks of the requests in flight are all in place, on different keys, and those of each
request are the ones that its plan claims. -/
structure Orderly (inFlight : List Task) (locks : σ) : Prop where
  secured : ∀ task ∈ inFlight, Secured task.heldKeys locks
  apart : inFlight.Pairwise fun left right => ∀ key ∈ left.heldKeys, key ∉ right.heldKeys
  onPlan : ∀ task ∈ inFlight, task.OnPlan
  claims : ∀ task ∈ inFlight, task.plan.claims = task.heldKeys.reverse

/-- Nothing but a request itself gives its locks back. -/
def SparesLocks (session : Session σ) : Event σ → Prop
  | .alterLocks locks =>
      ∀ task ∈ session.inFlight, ∀ key ∈ task.heldKeys, Occupied key locks
  | .launch _ _ _ | .resume _ | .drop _ | .setClock _ | .register _ => True

theorem rel_of_mem_eraseIdx {α : Type} {related : α → α → Prop} {elements : List α}
    (symmetric : ∀ left right, related left right → related right left)
    (pairwise : elements.Pairwise related) {position : Nat} {element other : α}
    (found : elements[position]? = some element) (kept : other ∈ elements.eraseIdx position) :
    related other element := by
  obtain ⟨inRange, rfl⟩ := List.getElem?_eq_some_iff.1 found
  rw [← List.take_append_drop position elements, List.drop_eq_getElem_cons inRange,
    List.pairwise_append, List.pairwise_cons] at pairwise
  obtain ⟨_, ⟨later, _⟩, across⟩ := pairwise
  rw [List.eraseIdx_eq_take_drop_succ, List.mem_append] at kept
  rcases kept with isEarlier | isLater
  · exact across other isEarlier _ List.mem_cons_self
  · exact symmetric _ _ (later other isLater)

namespace Orderly

variable {inFlight : List Task} {locks newLocks : σ}

theorem erase (orderly : Orderly inFlight locks) {position : Nat} {task : Task}
    (found : inFlight[position]? = some task)
    (spares : ∀ key, Foreign key task.heldKeys locks → Occupied key newLocks) :
    Orderly (inFlight.eraseIdx position) newLocks where
  secured other isOther := by
    have isInFlight := List.mem_of_mem_eraseIdx isOther
    have before := orderly.secured other isInFlight
    have symmetric (left right : Task) (apart : ∀ key ∈ left.heldKeys, key ∉ right.heldKeys)
        (key : LockKey) (held : key ∈ right.heldKeys) : key ∉ left.heldKeys :=
      fun again => apart key again held
    have apart := rel_of_mem_eraseIdx symmetric orderly.apart found isOther
    exact ⟨before.distinct, fun key held => spares key ⟨apart key held, before.occupied key held⟩⟩
  apart := orderly.apart.sublist (List.eraseIdx_sublist _ _)
  onPlan other isOther := orderly.onPlan other (List.mem_of_mem_eraseIdx isOther)
  claims other isOther := orderly.claims other (List.mem_of_mem_eraseIdx isOther)

theorem relock (orderly : Orderly inFlight locks)
    (spares : ∀ task ∈ inFlight, ∀ key ∈ task.heldKeys, Occupied key newLocks) :
    Orderly inFlight newLocks where
  secured task isInFlight :=
    ⟨(orderly.secured task isInFlight).distinct, spares task isInFlight⟩
  apart := orderly.apart
  onPlan := orderly.onPlan
  claims := orderly.claims

theorem cons (orderly : Orderly inFlight locks) {task : Task}
    (secured : Secured task.heldKeys newLocks) (onPlan : task.OnPlan)
    (claims : task.plan.claims = task.heldKeys.reverse)
    (foreign : ∀ key, Occupied key locks → Foreign key task.heldKeys newLocks) :
    Orderly (task :: inFlight) newLocks where
  secured := by
    refine List.forall_mem_cons.2 ⟨secured, fun other isOther => ?_⟩
    have before := orderly.secured other isOther
    exact ⟨before.distinct, fun key held => (foreign key (before.occupied key held)).occupied⟩
  apart := by
    refine List.pairwise_cons.2 ⟨fun other isOther key held again => ?_, orderly.apart⟩
    exact (foreign key ((orderly.secured other isOther).occupied key again)).notHeld held
  onPlan := List.forall_mem_cons.2 ⟨onPlan, orderly.onPlan⟩
  claims := List.forall_mem_cons.2 ⟨claims, orderly.claims⟩

end Orderly

/-! ### Events -/

variable [Suite]

inductive Launched (session : Session σ) (coordinator : Coordinator) (request : Request)
    (ids : FreshIds) : Session σ → Prop
  | ended {services : Services Ledger σ} (untouched : services.platform = session.ledger)
      (spares : ∀ key, Occupied key session.locks → Occupied key services.locks) :
      Launched session coordinator request ids
        ⟨services, session.inFlight, (request, ids) :: session.requests⟩
  | waits {services : Services Ledger σ} {task : Task}
      (untouched : services.platform = session.ledger)
      (planned : coordinator.plan request ids session.ledger = .ok task.plan)
      (sameIds : task.ids = ids)
      (onPlan : task.OnPlan) (claims : task.plan.claims = task.heldKeys.reverse)
      (secured : Secured task.heldKeys services.locks)
      (foreign : ∀ key, Occupied key session.locks → Foreign key task.heldKeys services.locks) :
      Launched session coordinator request ids
        ⟨services, task :: session.inFlight, (request, ids) :: session.requests⟩

theorem launch_launched (session : Session σ) (coordinator : Coordinator) (request : Request)
    (ids : FreshIds) :
    Launched session coordinator request ids (session.launch coordinator request ids) := by
  unfold launch
  dsimp only
  split
  · exact .ended rfl fun _ occupied => occupied
  · rename_i task started
    obtain ⟨plan, planned, rfl⟩ := Task.start_eq_ok_iff.1 started
    let task : Task := ⟨coordinator, plan, ids, [], .locking plan.claims⟩
    obtain ⟨untouched, samePlan, sameIds, onPlan⟩ :=
      task.runFor_isCollecting rfl rfl session.services task.stepsLeft
    have secured := runFor_of_movesLocks MovesLocks.secured isCollecting task.stepsLeft task
      session.services ⟨List.nodup_nil, fun key held => nomatch held⟩
    have foreign (key : LockKey) (occupied : Occupied key session.locks) :=
      runFor_of_movesLocks MovesLocks.foreign isCollecting task.stepsLeft task session.services
        ⟨List.not_mem_nil, occupied⟩
    change Launched session coordinator request ids ⟨_, if _ then _ else _, _⟩
    split
    · rename_i waits
      refine .waits untouched ?_ sameIds onPlan (onPlan.claims_of_isCollecting waits) secured
        foreign
      exact planned.trans (congrArg Except.ok samePlan.symm)
    · exact .ended untouched fun key occupied => (foreign key occupied).occupied

inductive Moves (session : Session σ) (event : Event σ) : Session σ → Prop
  | launched {coordinator : Coordinator} {request : Request} {ids : FreshIds} {next : Session σ}
      (isLaunch : event = .launch coordinator request ids)
      (launched : Launched session coordinator request ids next) : Moves session event next
  | left {services : Services Ledger σ} {position : Nat} {task : Task}
      (found : session.inFlight[position]? = some task)
      (settles : Settles task.plan session.ledger services.platform)
      (spares : ∀ key, Foreign key task.heldKeys session.locks → Occupied key services.locks) :
      Moves session event ⟨services, session.inFlight.eraseIdx position, session.requests⟩
  | outside {services : Services Ledger σ} (keyring : SortedMap PublicKey KeyPair)
      (untouched : services.platform = { session.ledger with keyring })
      (spares : ∀ task ∈ session.inFlight, ∀ key ∈ task.heldKeys, Occupied key services.locks) :
      Moves session event ⟨services, session.inFlight, session.requests⟩

theorem step_moves {session : Session σ} {event : Event σ}
    (orderly : Orderly session.inFlight session.locks) (spares : session.SparesLocks event) :
    Moves session event (session.step event) := by
  have kept (task : Task) (isInFlight : task ∈ session.inFlight) :
      ∀ key ∈ task.heldKeys, Occupied key session.locks :=
    (orderly.secured task isInFlight).occupied
  cases event with
  | launch coordinator request ids =>
      exact .launched rfl (launch_launched session coordinator request ids)
  | resume position =>
      change Moves session _ (session.resume position)
      unfold resume
      split
      · exact .outside session.ledger.keyring rfl kept
      · rename_i task found
        have onPlan := orderly.onPlan task (List.mem_of_getElem? found)
        refine .left found (resume_settles onPlan _ session.services) ?_
        intro key foreign
        exact (resume_foreign foreign _).occupied
  | drop position =>
      change Moves session _ (session.drop position)
      unfold drop
      split
      · exact .outside session.ledger.keyring rfl kept
      · rename_i task found
        refine .left found (.nothing session.ledger.proposals) ?_
        intro key foreign
        exact cancel_spares foreign
  | setClock now => exact .outside session.ledger.keyring rfl kept
  | register keys => exact .outside (session.ledger.register keys).keyring rfl kept
  | alterLocks locks => exact .outside session.ledger.keyring rfl spares

theorem Moves.orderly {session next : Session σ} {event : Event σ}
    (moves : Moves session event next)
    (orderly : Orderly session.inFlight session.locks) :
    Orderly next.inFlight next.locks := by
  cases moves with
  | launched _ launched =>
      cases launched with
      | ended _ spares =>
          exact orderly.relock fun task isInFlight key held =>
            spares key ((orderly.secured task isInFlight).occupied key held)
      | waits _ _ _ onPlan claims secured foreign =>
          exact orderly.cons secured onPlan claims foreign
  | left found _ spares => exact orderly.erase found spares
  | outside _ _ spares => exact orderly.relock spares

theorem Reaches.orderly {permitted : Session σ → Event σ → Prop} {contracts : Registry}
    {locks : σ} {clock : Timestamp} {session : Session σ}
    (reaches : Reaches permitted (opened contracts locks clock) session)
    (spares : ∀ session event, permitted session event → session.SparesLocks event) :
    Orderly session.inFlight session.locks := by
  induction reaches with
  | start =>
      constructor
      · intro task isInFlight
        cases isInFlight
      · exact .nil
      · intro task isInFlight
        cases isInFlight
      · intro task isInFlight
        cases isInFlight
  | next earlier permits ih => exact (step_moves ih (spares _ _ permits)).orderly ih

end Locks

end Session

end Consortium
