import Consortium.Network.Ledger
import Consortium.Network.Task

/-!
Operations that are interleaved down to their single steps. Between any two steps of one operation
the others go on, the clock is set, and the platform and the locks may change in other ways. Not
even the checks of a request are made at one time: each query may see the platform as it is or as it
has been.
-/

namespace Consortium

/-! ### Views -/

inductive Query where
  | groupById (id : LinearId)
  | groupsByName (networkId : NetworkId) (name : String)
  | membership (networkId : NetworkId) (party : Party)
  | memberships (networkId : NetworkId)
  | networkExists (networkId : NetworkId)

/-- What a coordinator sees while it checks a request: the platform at the moment of each query. -/
structure View (π : Type) where
  moment : Query → π

namespace View

variable {π : Type} [Platform π]

/-- Nothing can be submitted to a view. -/
instance : Platform (View π) where
  groupById id view := Platform.groupById id (view.moment (.groupById id))
  groupsByName networkId name view :=
    Platform.groupsByName networkId name (view.moment (.groupsByName networkId name))
  membership networkId party view :=
    Platform.membership networkId party (view.moment (.membership networkId party))
  memberships networkId view :=
    Platform.memberships networkId (view.moment (.memberships networkId))
  networkExists networkId view :=
    Platform.networkExists networkId (view.moment (.networkExists networkId))
  collectSignatures _ view := (.error (.submission (.unavailable "view")), view)
  finalize _ view := (.error (.submission (.unavailable "view")), view)

/-- The platform does not change while the coordinator looks at it. -/
def still (platform : π) : View π := ⟨fun _ => platform⟩

theorem requireMembers_still (platform : π) (networkId : NetworkId) (parties : List Party) :
    Coordinator.requireMembers (still platform) networkId parties =
      Coordinator.requireMembers platform networkId parties := by
  induction parties with
  | nil => rfl
  | cons party rest ih =>
      unfold Coordinator.requireMembers
      rw [ih]
      rfl

/-- Checks that are made at one time are those of the coordinator on its platform. -/
theorem plan_still (coordinator : Coordinator) (request : Request) (ids : FreshIds)
    (platform : π) :
    coordinator.plan request ids (still platform) = coordinator.plan request ids platform := by
  cases request with
  | found founding =>
      unfold Coordinator.plan Coordinator.planBootstrap
      cases founding.groupId <;> rfl
  | apply application => rfl
  | change networkId party change => rfl
  | revoke networkId party => rfl
  | createGroup proposal =>
      unfold Coordinator.plan Coordinator.planGroup
      simp only [requireMembers_still]
      cases proposal.groupId <;> cases proposal.name <;> rfl
  | modifyGroup id change =>
      unfold Coordinator.plan Coordinator.planGroupChange
      simp only [requireMembers_still]
      rfl
  | exitGroup id => rfl

end View

/-! ### Operations -/

inductive Stage (π : Type) where
  | asked
  | refused (failure : NetworkError)
  /-- The checks have passed on what the coordinator has seen. -/
  | running (view : View π) (task : Task)

structure Operation (π : Type) where
  coordinator : Coordinator
  request : Request
  ids : FreshIds
  stage : Stage π

namespace Operation

variable {π σ : Type}

/-- The error that the operation answers, or is going to answer when it has given its locks back. -/
def failure? (operation : Operation π) : Option NetworkError :=
  match operation.stage with
  | .asked => none
  | .refused failure => some failure
  | .running _ task =>
      match task.progress with
      | .releasing (.error failure) => some failure
      | _ => none

theorem failure?_running {coordinator : Coordinator} {request : Request} {ids : FreshIds}
    {view : View π} {task : Task} {failure : NetworkError} :
    failure? ⟨coordinator, request, ids, .running view task⟩ = some failure ↔
      task.progress = .releasing (.error failure) := by
  unfold failure?
  dsimp only
  split
  · rename_i found
    rw [found, Option.some.injEq, Progress.releasing.injEq, Except.error.injEq]
  · rename_i otherwise
    refine iff_of_false (fun found => ?_) (otherwise failure)
    cases found

def held (operation : Operation π) : List RequestLock :=
  match operation.stage with
  | .asked | .refused _ => []
  | .running _ task => task.held

/-- The key that the operation takes the lock for in its next step. -/
def wants? (operation : Operation π) : Option LockKey :=
  match operation.stage with
  | .asked | .refused _ => none
  | .running _ task =>
      match task.progress with
      | .locking pending => pending.head?
      | _ => none

def check [Platform π] (operation : Operation π) (view : View π) (services : Services π σ) :
    Operation π :=
  let sight : Services (View π) σ := ⟨view, services.locks, services.clock⟩
  match Task.start operation.coordinator operation.request operation.ids sight with
  | .error failure => { operation with stage := .refused failure }
  | .ok task => { operation with stage := .running view task }

def cancel [LockStore σ] (operation : Operation π) (services : Services π σ) : Services π σ :=
  match operation.stage with
  | .asked | .refused _ => services
  | .running _ task => task.cancel services

theorem wants?_eq_some_iff {operation : Operation π} {key : LockKey} :
    operation.wants? = some key ↔ ∃ view task pending,
      operation.stage = .running view task ∧ task.progress = .locking (key :: pending) := by
  obtain ⟨coordinator, request, ids, stage⟩ := operation
  constructor
  · intro wants
    cases stage with
    | asked => cases wants
    | refused failure => cases wants
    | running view task =>
        unfold wants? at wants
        dsimp only at wants
        split at wants
        · rename_i pending progress
          obtain ⟨rest, rfl⟩ := List.head?_eq_some_iff.1 wants
          exact ⟨view, task, rest, rfl, progress⟩
        · cases wants
  · rintro ⟨view, task, pending, rfl, progress⟩
    simp only [wants?, progress, List.head?_cons]

end Operation

/-! ### Turns -/

structure Interleaving (π σ : Type) where
  services : Services π σ
  /-- What the platform has been before, the latest first. -/
  past : List π
  operations : List (Operation π)

inductive Turn (π σ : Type) where
  | ask (coordinator : Coordinator) (request : Request) (ids : FreshIds)
  | check (position : Nat) (view : View π)
  | advance (position : Nat)
  | drop (position : Nat)
  | setClock (now : Timestamp)
  /-- Something else happens to the platform. -/
  | alterPlatform (platform : π)
  /-- The lock store is changed by something else than an operation. -/
  | alterLocks (locks : σ)

namespace Interleaving

variable {π σ : Type}

def opened (platform : π) (locks : σ) (clock : Timestamp) : Interleaving π σ :=
  ⟨⟨platform, locks, clock⟩, [], []⟩

/-- The platform as it is and as it has been. -/
def history (state : Interleaving π σ) : List π := state.services.platform :: state.past

section Turns

variable [Platform π]

def check (state : Interleaving π σ) (position : Nat) (view : View π) : Interleaving π σ :=
  match state.operations[position]? with
  | some ⟨coordinator, request, ids, .asked⟩ =>
      let checked := Operation.check ⟨coordinator, request, ids, .asked⟩ view state.services
      { state with operations := state.operations.set position checked }
  | _ => state

variable [LockStore σ]

def drop (state : Interleaving π σ) (position : Nat) : Interleaving π σ :=
  match state.operations[position]? with
  | none => state
  | some operation =>
      { state with
        services := operation.cancel state.services
        operations := state.operations.eraseIdx position }

variable [Suite]

def advance (state : Interleaving π σ) (position : Nat) : Interleaving π σ :=
  match state.operations[position]? with
  | some ⟨coordinator, request, ids, .running view task⟩ =>
      let (next, services) := task.step state.services
      { services
        past := state.history
        operations :=
          state.operations.set position ⟨coordinator, request, ids, .running view next⟩ }
  | _ => state

def step (state : Interleaving π σ) : Turn π σ → Interleaving π σ
  | .ask coordinator request ids =>
      { state with operations := state.operations ++ [⟨coordinator, request, ids, .asked⟩] }
  | .check position view => state.check position view
  | .advance position => state.advance position
  | .drop position => state.drop position
  | .setClock now => { state with services.clock := now }
  | .alterPlatform platform =>
      { state with services.platform := platform, past := state.history }
  | .alterLocks locks => { state with services.locks := locks }

/-- Whatever a coordinator looks at, it sees as it is or as it has been. -/
def Sees (state : Interleaving π σ) : Turn π σ → Prop
  | .check _ view => ∀ query, view.moment query ∈ state.history
  | .ask _ _ _ | .advance _ | .drop _ | .setClock _ | .alterPlatform _ | .alterLocks _ => True

/-- The states that come about through turns that are permitted where they are taken. -/
inductive Reaches (permitted : Interleaving π σ → Turn π σ → Prop) (start : Interleaving π σ) :
    Interleaving π σ → Prop
  | start : Reaches permitted start start
  | next {state : Interleaving π σ} {turn : Turn π σ} (earlier : Reaches permitted start state)
      (sees : state.Sees turn) (permits : permitted state turn) :
      Reaches permitted start (state.step turn)

theorem Reaches.imp {permitted allowed : Interleaving π σ → Turn π σ → Prop}
    {start state : Interleaving π σ} (reaches : Reaches permitted start state)
    (implies : ∀ state turn, Reaches permitted start state → permitted state turn →
      allowed state turn) : Reaches allowed start state := by
  induction reaches with
  | start => exact .start
  | next earlier sees permits ih => exact .next ih sees (implies _ _ earlier permits)

/-- A coordinator is asked, checks the request at one time and takes some steps. -/
def attempt (state : Interleaving π σ) (coordinator : Coordinator) (request : Request)
    (ids : FreshIds) (steps : Nat) : Interleaving π σ :=
  let position := state.operations.length
  let asked := state.step (.ask coordinator request ids)
  let checked := asked.step (.check position (.still asked.services.platform))
  (List.replicate steps (Turn.advance position)).foldl step checked

theorem Reaches.attempt {permitted : Interleaving π σ → Turn π σ → Prop}
    {start state : Interleaving π σ} (reaches : Reaches permitted start state)
    {coordinator : Coordinator} {request : Request} {ids : FreshIds} (steps : Nat)
    (asks : ∀ state, permitted state (.ask coordinator request ids))
    (checks : ∀ state position view, permitted state (.check position view))
    (advances : ∀ state position, permitted state (.advance position)) :
    Reaches permitted start (state.attempt coordinator request ids steps) := by
  let position := state.operations.length
  let asked := state.step (.ask coordinator request ids)
  have isAsked : Reaches permitted start asked := reaches.next trivial (asks state)
  have isChecked : Reaches permitted start
      (asked.step (.check position (.still asked.services.platform))) :=
    isAsked.next (fun _ => List.mem_cons_self) (checks asked position _)
  have goesOn (current : Interleaving π σ) (reached : Reaches permitted start current) :
      Reaches permitted start
        ((List.replicate steps (Turn.advance position)).foldl Interleaving.step current) := by
    induction steps generalizing current with
    | zero => exact reached
    | succ steps ih => exact ih _ (reached.next trivial (advances current position))
  exact goesOn _ isChecked

/-- All that a turn can do. -/
inductive Moves (state : Interleaving π σ) (turn : Turn π σ) : Interleaving π σ → Prop
  | asked {coordinator : Coordinator} {request : Request} {ids : FreshIds}
      (isTurn : turn = .ask coordinator request ids) :
      Moves state turn
        { state with operations := state.operations ++ [⟨coordinator, request, ids, .asked⟩] }
  | checked {position : Nat} {view : View π} {operation : Operation π}
      (isTurn : turn = .check position view)
      (found : state.operations[position]? = some operation) (isAsked : operation.stage = .asked) :
      Moves state turn
        { state with
          operations := state.operations.set position (operation.check view state.services) }
  | advanced {position : Nat} {operation : Operation π} {view : View π} {task : Task}
      (isTurn : turn = .advance position)
      (found : state.operations[position]? = some operation)
      (running : operation.stage = .running view task) :
      Moves state turn
        { services := (task.step state.services).2
          past := state.history
          operations := state.operations.set position
            { operation with stage := .running view (task.step state.services).1 } }
  | dropped {position : Nat} {operation : Operation π} (isTurn : turn = .drop position)
      (found : state.operations[position]? = some operation) :
      Moves state turn
        { state with
          services := operation.cancel state.services
          operations := state.operations.eraseIdx position }
  | clocked {now : Timestamp} (isTurn : turn = .setClock now) :
      Moves state turn { state with services.clock := now }
  | altered {platform : π} (isTurn : turn = .alterPlatform platform) :
      Moves state turn { state with services.platform := platform, past := state.history }
  | relocked {locks : σ} (isTurn : turn = .alterLocks locks) :
      Moves state turn { state with services.locks := locks }
  | idle : Moves state turn state

theorem step_moves (state : Interleaving π σ) (turn : Turn π σ) :
    Moves state turn (state.step turn) := by
  cases turn with
  | ask coordinator request ids => exact .asked rfl
  | check position view =>
      change Moves state _ (state.check position view)
      unfold check
      split
      · rename_i found
        exact .checked rfl found rfl
      · exact .idle
  | advance position =>
      change Moves state _ (state.advance position)
      unfold advance
      split
      · rename_i found
        exact .advanced rfl found rfl
      · exact .idle
  | drop position =>
      change Moves state _ (state.drop position)
      unfold drop
      split
      · exact .idle
      · rename_i operation found
        exact .dropped rfl found
  | setClock now => exact .clocked rfl
  | alterPlatform platform => exact .altered rfl
  | alterLocks locks => exact .relocked rfl

end Turns

end Interleaving

end Consortium
