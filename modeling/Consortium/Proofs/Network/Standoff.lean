import Consortium.Proofs.Network.Interleaving
import Consortium.Proofs.Network.NaturalKeys

/-!
Which requests stand in each other's way. A request is refused a lock exactly while another one in
flight holds it, whatever the steps in which the two are interleaved. The other one is in flight for
the same natural key, or for one that the lock key does not tell from it.
-/

namespace Consortium

open RequestLock

/-- Stores that refuse a lock only where they keep one for its key. -/
class CandidLockStore (σ : Type) [LockStore σ] [ListedLockStore σ] : Prop where
  kept_of_refused : ∀ {lock : RequestLock} {store newStore : σ} {locks : List RequestLock},
    ListedLockStore.Lists store locks →
      LockStore.insertIfAbsent lock store = .ok (false, newStore) →
        ∃ kept ∈ locks, kept.key = lock.key

theorem SortedMap.exists_of_tabulates {κ ν α : Type} [Ord κ] [Std.LawfulEqOrd κ] [Std.TransOrd κ]
    {entryOf : α → κ × ν} {map : SortedMap κ ν} {elements : List α}
    (tabulates : map.Tabulates entryOf elements) {key : κ} (occupied : map.contains key = true) :
    ∃ element ∈ elements, (entryOf element).1 = key := by
  obtain ⟨value, found⟩ := Option.isSome_iff_exists.1 occupied
  have isEntry := SortedMap.find?_eq_some_iff.1 found
  rw [tabulates] at isEntry
  obtain ⟨element, member, isPair⟩ := List.mem_map.1 isEntry
  exact ⟨element, member, congrArg Prod.fst isPair⟩

instance : CandidLockStore LockTable where
  kept_of_refused tabulates refused :=
    SortedMap.exists_of_tabulates tabulates (LawfulLockStore.of_refused refused).1

instance : CandidLockStore LockEnvironment where
  kept_of_refused {lock _ _ _} records refused := by
    obtain ⟨kept, member, sameBytes⟩ :=
      SortedMap.exists_of_tabulates records.tabulates (LawfulLockStore.of_refused refused).1
    exact ⟨kept, member, LockKey.toBytes_injective sameBytes⟩

namespace RequestLock

variable {σ κ : Type} [LockStore σ] [ListedLockStore σ] {key : LockKey} {id : Uuid}
  {now : Timestamp} {onDuplicate : κ → κ} {caller after : κ} {store newStore : σ}
  {locks : List RequestLock}

theorem kept_of_duplicate [CandidLockStore σ] (kept : Kept locks store) {other : LockKey}
    (refused : create key id now onDuplicate caller store =
      (.error (.duplicate other), after, newStore)) :
    other = key ∧ ∃ lock ∈ locks, lock.key = key := by
  obtain ⟨listed, lists, perm⟩ := kept
  unfold create at refused
  dsimp only at refused
  split at refused
  · cases refused
  · cases refused
  · rename_i isRefused
    cases refused
    obtain ⟨lock, isListed, sameKey⟩ := CandidLockStore.kept_of_refused lists isRefused
    exact ⟨rfl, lock, perm.mem_iff.1 isListed, sameKey⟩

theorem free_of_create_ok (kept : Kept locks store) {taken : RequestLock}
    (created : create key id now onDuplicate caller store = (.ok taken, after, newStore)) :
    ∀ lock ∈ locks, lock.key ≠ key := by
  obtain ⟨rfl, listed, lists, perm⟩ := kept_of_create_ok kept created
  have distinct := (perm.map RequestLock.key).nodup_iff.1 (ListedLockStore.nodup_keys lists)
  intro lock member sameKey
  exact (List.nodup_cons.1 distinct).1 (List.mem_map.2 ⟨lock, member, sameKey⟩)

end RequestLock

namespace Task

/-- The request takes what its plan claims, in that order, and holds nothing else. -/
structure Claiming (task : Task) : Prop where
  gathers : task.Gathers
  claims : ∀ key ∈ task.heldKeys, key ∈ task.plan.claims

theorem step_claiming {π σ : Type} [Platform π] [LockStore σ] [LawfulLockStore σ] [Suite]
    {task : Task} (claiming : task.Claiming) (services : Services π σ) :
    (task.step services).1.Claiming := by
  obtain ⟨coordinator, plan, ids, held, progress⟩ := task
  obtain ⟨gathers, claims⟩ := claiming
  cases progress with
  | locking pending =>
      refine ⟨step_gathers gathers rfl services, ?_⟩
      cases pending with
      | nil => exact claims
      | cons key pending =>
          unfold step lock
          dsimp only
          split
          · rename_i taken _ locks created
            obtain ⟨rfl, _, _⟩ := occupied_of_create_ok created
            refine List.forall_mem_cons.2 ⟨?_, claims⟩
            change plan.claims = _ ++ taken.key :: pending at gathers
            change taken.key ∈ plan.claims
            rw [gathers]
            exact List.mem_append_right _ List.mem_cons_self
          · exact claims
  | collecting tx =>
      refine ⟨?_, claims⟩
      unfold step Gathers
      dsimp only
      cases (Platform.collectSignatures tx services.platform).1 <;> trivial
  | verifying tx => exact ⟨step_gathers gathers rfl services, claims⟩
  | finalizing tx => exact ⟨trivial, claims⟩
  | releasing result =>
      cases held with
      | nil => exact ⟨trivial, claims⟩
      | cons taken rest =>
          exact ⟨trivial, fun key isHeld => claims key (List.mem_cons_of_mem _ isHeld)⟩

/-- What a request is about to take it does not hold already. -/
theorem Claiming.notHeld {task : Task} (claiming : task.Claiming)
    (distinct : task.plan.claims.Nodup) {key : LockKey} {pending : List LockKey}
    (next : task.progress = .locking (key :: pending)) : key ∉ task.heldKeys := by
  have gathers := claiming.gathers
  unfold Gathers at gathers
  rw [next] at gathers
  change task.plan.claims = _ at gathers
  rw [gathers] at distinct
  intro isHeld
  exact (List.disjoint_of_nodup_append distinct) (List.mem_reverse.2 isHeld) List.mem_cons_self

end Task

namespace Operation

variable {π σ : Type} [Platform π]

/-- What the request of a running operation is for. -/
def naturalKeys (operation : Operation π) : List NaturalKey :=
  match operation.stage with
  | .asked | .refused _ => []
  | .running view _ => operation.coordinator.naturalKeys operation.request operation.ids view

/-- A running operation claims what its request is for, and holds nothing else. -/
def Claiming (operation : Operation π) : Prop :=
  match operation.stage with
  | .asked | .refused _ => True
  | .running _ task =>
      task.Claiming ∧ task.plan.claims.Nodup ∧
        task.plan.claims = operation.naturalKeys.map NaturalKey.lockKey

theorem check_claiming (operation : Operation π) (view : View π) (services : Services π σ) :
    (operation.check view services).held = [] ∧ (operation.check view services).Claiming := by
  unfold check
  dsimp only
  split
  · exact ⟨rfl, trivial⟩
  · rename_i task started
    obtain ⟨planned, nothing, gathers⟩ := Task.gathers_of_start started
    have claims := Coordinator.claims_of_plan planned
    refine ⟨nothing, ⟨gathers, fun key isHeld => ?_⟩, ?_, ?_⟩
    · rw [Task.heldKeys, nothing] at isHeld
      cases isHeld
    · rw [claims]
      exact Coordinator.nodup_claims
    · exact claims.trans Coordinator.claims_eq_naturalKeys

/-- What an operation is about to take is for something that its request is for. -/
theorem Claiming.exists_wanted {operation : Operation π} (claiming : operation.Claiming)
    {key : LockKey} (wants : operation.wants? = some key) :
    ∃ natural ∈ operation.naturalKeys, natural.lockKey = key := by
  obtain ⟨view, task, pending, running, next⟩ := wants?_eq_some_iff.1 wants
  obtain ⟨coordinator, request, ids, _⟩ := operation
  cases running
  obtain ⟨⟨gathers, _⟩, _, sameKeys⟩ := claiming
  unfold Task.Gathers at gathers
  rw [next] at gathers
  have isClaim : key ∈ task.plan.claims := by
    rw [gathers]
    exact List.mem_append_right _ List.mem_cons_self
  rw [sameKeys] at isClaim
  exact List.mem_map.1 isClaim

/-- Each lock that an operation holds is for something that its request is for. -/
theorem Claiming.exists_naturalKey {operation : Operation π} (claiming : operation.Claiming)
    {lock : RequestLock} (isHeld : lock ∈ operation.held) :
    ∃ natural ∈ operation.naturalKeys, natural.lockKey = lock.key := by
  obtain ⟨coordinator, request, ids, stage⟩ := operation
  cases stage with
  | asked => cases isHeld
  | refused failure => cases isHeld
  | running view task =>
      obtain ⟨⟨_, claims⟩, _, sameKeys⟩ := claiming
      have isClaim := claims lock.key (List.mem_map_of_mem isHeld)
      rw [sameKeys] at isClaim
      exact List.mem_map.1 isClaim

end Operation

namespace Interleaving

variable {π σ : Type} [LockStore σ]

/-- The locks are left to the operations, and the store does not fail to remove one in the course of
the turn. -/
def SparesLocks [ListedLockStore σ] (state : Interleaving π σ) : Turn π σ → Prop
  | .advance position => ∀ operation view task, state.operations[position]? = some operation →
      operation.stage = .running view task → task.GivesBack state.services
  | .drop position => ∀ operation, state.operations[position]? = some operation →
      AllReturnable operation.held state.services.locks
  | .alterLocks _ => False
  | .ask _ _ _ | .check _ _ | .setClock _ | .alterPlatform _ => True

def held (state : Interleaving π σ) : List RequestLock := state.operations.flatMap Operation.held

theorem held_perm {operations : List (Operation π)} {position : Nat} {operation : Operation π}
    (found : operations[position]? = some operation) :
    (operations.flatMap Operation.held).Perm
      (operation.held ++ (operations.eraseIdx position).flatMap Operation.held) := by
  obtain ⟨inRange, rfl⟩ := List.getElem?_eq_some_iff.1 found
  exact (List.getElem_cons_eraseIdx_perm inRange).symm.flatMap_right _

theorem held_set_perm {operations : List (Operation π)} {position : Nat} {operation : Operation π}
    (found : operations[position]? = some operation) (next : Operation π) :
    ((operations.set position next).flatMap Operation.held).Perm
      (next.held ++ (operations.eraseIdx position).flatMap Operation.held) := by
  obtain ⟨inRange, _⟩ := List.getElem?_eq_some_iff.1 found
  exact (List.set_perm_cons_eraseIdx inRange next).flatMap_right _

section Account

variable [Platform π] [LawfulLockStore σ] [ListedLockStore σ]

/-- The store keeps what the operations hold, and they hold what they claim. -/
structure Accounted (state : Interleaving π σ) : Prop where
  kept : Kept state.held state.services.locks
  claiming : ∀ operation ∈ state.operations, operation.Claiming

variable {state next : Interleaving π σ}

omit [LawfulLockStore σ] in
theorem accounted_opened (platform : π) {locks : σ} (clock : Timestamp)
    (vacant : LockStore.list locks = .ok []) : (opened platform locks clock).Accounted where
  kept := ⟨[], ListedLockStore.lists_of_list_nil vacant, .nil⟩
  claiming _ member := nomatch member

variable [Suite]

theorem Moves.accounted {turn : Turn π σ} (moves : Moves state turn next)
    (spares : state.SparesLocks turn) (accounted : state.Accounted) : next.Accounted := by
  obtain ⟨kept, claiming⟩ := accounted
  cases moves with
  | asked isTurn =>
      refine ⟨?_, fun operation member => ?_⟩
      · rw [held, List.flatMap_append]
        exact kept.of_perm (.of_eq (List.append_nil _).symm)
      · rcases List.mem_append.1 member with earlier | isNew
        · exact claiming operation earlier
        · rw [List.mem_singleton.1 isNew]
          trivial
  | @checked position view operation isTurn found isAsked =>
      obtain ⟨nothing, checked⟩ := operation.check_claiming view state.services
      refine ⟨?_, fun other member => ?_⟩
      · have before : operation.held = [] := by rw [Operation.held, isAsked]
        have others := kept.of_perm (held_perm found)
        rw [before] at others
        refine others.of_perm ?_
        have after := held_set_perm found (operation.check view state.services)
        rw [nothing] at after
        exact after.symm
      · rcases List.mem_or_eq_of_mem_set member with earlier | rfl
        · exact claiming other earlier
        · exact checked
  | @advanced position operation view task isTurn found running =>
      subst isTurn
      obtain ⟨coordinator, request, ids, _⟩ := operation
      cases running
      obtain ⟨taskClaiming, distinct, sameKeys⟩ := claiming _ (List.mem_of_getElem? found)
      refine ⟨?_, fun other member => ?_⟩
      · have stepped := Task.step_kept (kept.of_perm (held_perm found)) (spares _ _ _ found rfl)
        let stepsOn : Operation π :=
          ⟨coordinator, request, ids, .running view (task.step state.services).1⟩
        exact stepped.of_perm (held_set_perm found stepsOn).symm
      · rcases List.mem_or_eq_of_mem_set member with earlier | rfl
        · exact claiming other earlier
        · refine ⟨Task.step_claiming taskClaiming state.services, ?_, ?_⟩
          · rw [(Task.step_plan task state.services).1]
            exact distinct
          · rw [(Task.step_plan task state.services).1]
            exact sameKeys
  | @dropped position operation isTurn found =>
      subst isTurn
      refine ⟨?_, fun other member => claiming other (List.mem_of_mem_eraseIdx member)⟩
      have others := kept.of_perm (held_perm found)
      have returnable := spares _ found
      obtain ⟨coordinator, request, ids, stage⟩ := operation
      cases stage with
      | asked => exact others
      | refused failure => exact others
      | running view task => exact Task.cancel_kept others returnable
  | clocked isTurn => exact ⟨kept, claiming⟩
  | altered isTurn => exact ⟨kept, claiming⟩
  | relocked isTurn =>
      subst isTurn
      exact spares.elim
  | idle => exact ⟨kept, claiming⟩

theorem Reaches.accounted {start : Interleaving π σ} (reaches : Reaches SparesLocks start state)
    (accounted : start.Accounted) : state.Accounted := by
  induction reaches with
  | start => exact accounted
  | next _ _ spares ih => exact (step_moves _ _).accounted spares ih

/-! ### The next lock of an operation -/

omit [LawfulLockStore σ] [ListedLockStore σ] in
theorem operations_advance {position : Nat} {coordinator : Coordinator} {request : Request}
    {ids : FreshIds} {view : View π} {task : Task}
    (found : state.operations[position]? = some ⟨coordinator, request, ids, .running view task⟩) :
    (state.step (.advance position)).operations[position]? =
      some ⟨coordinator, request, ids, .running view (task.step state.services).1⟩ := by
  obtain ⟨inRange, _⟩ := List.getElem?_eq_some_iff.1 found
  simp only [step, advance, found]
  exact List.getElem?_set_self inRange

omit [LawfulLockStore σ] in
/-- An operation that is refused its next lock finds another one in its way, and an operation that
gets the lock does not. -/
theorem Accounted.next_lock [CandidLockStore σ] (accounted : state.Accounted) {position : Nat}
    {operation : Operation π} (found : state.operations[position]? = some operation)
    {view : View π} {task : Task} (running : operation.stage = .running view task)
    {key : LockKey} {pending : List LockKey} (next : task.progress = .locking (key :: pending)) :
    (∀ other, (task.step state.services).1.progress = .releasing (.error (.duplicate other)) →
      other = key ∧ ∃ place ≠ position, ∃ rival, state.operations[place]? = some rival ∧
        ∃ lock ∈ rival.held, lock.key = key) ∧
    ((∀ failure, (task.step state.services).1.progress ≠ .releasing (.error failure)) →
      ∀ rival ∈ state.operations, ∀ lock ∈ rival.held, lock.key ≠ key) := by
  have isLock : task.step state.services = task.lock key pending state.services := by
    rw [Task.step, next]
  rw [isLock]
  unfold Task.lock
  dsimp only
  split
  · rename_i created
    constructor
    · intro other progress
      cases progress
    · intro _ rival isRival lock isHeld
      exact free_of_create_ok accounted.kept created lock
        (List.mem_flatMap.2 ⟨rival, isRival, isHeld⟩)
  · rename_i failure _ _ created
    constructor
    · intro other progress
      cases failure with
      | store failure => cases progress
      | duplicate refusedKey =>
          cases progress
          obtain ⟨sameKey, lock, isKept, isFor⟩ := kept_of_duplicate accounted.kept created
          obtain ⟨rival, isRival, isHeld⟩ := List.mem_flatMap.1 isKept
          obtain ⟨place, foundRival⟩ := List.getElem?_of_mem isRival
          refine ⟨sameKey, place, ?_, rival, foundRival, lock, isHeld, isFor⟩
          rintro rfl
          -- The operation does not stand in its own way: it claims the key only once.
          cases found.symm.trans foundRival
          have claiming := accounted.claiming operation (List.mem_of_getElem? found)
          obtain ⟨coordinator, request, ids, _⟩ := operation
          cases running
          obtain ⟨taskClaiming, distinct, _⟩ := claiming
          apply taskClaiming.notHeld distinct next
          rw [← isFor]
          exact List.mem_map_of_mem isHeld
    · intro succeeds
      exact absurd rfl (succeeds _)

/-! A store in memory that does not fail to remove locks never does, as long as nothing but the
operations changes it. -/

def LeavesLocks {π σ : Type} : Turn π σ → Prop
  | .alterLocks _ => False
  | .ask _ _ _ | .check _ _ | .advance _ | .drop _ | .setClock _ | .alterPlatform _ => True

theorem step_failDeletes {state : Interleaving π LockTable} {turn : Turn π LockTable}
    (leaves : LeavesLocks turn) :
    (state.step turn).services.locks.failDeletes = state.services.locks.failDeletes := by
  have moves := step_moves state turn
  generalize state.step turn = next at moves
  cases moves with
  | asked isTurn => rfl
  | checked isTurn found isAsked => rfl
  | advanced isTurn found running => exact Task.step_failDeletes _ _
  | @dropped position operation isTurn found =>
      obtain ⟨coordinator, request, ids, stage⟩ := operation
      cases stage with
      | asked => rfl
      | refused failure => rfl
      | running view task => exact Task.cancel_failDeletes _ _
  | clocked isTurn => rfl
  | altered isTurn => rfl
  | relocked isTurn =>
      subst isTurn
      exact leaves.elim
  | idle => rfl

omit [Platform π] [Suite] in
theorem sparesLocks_of_failDeletes {state : Interleaving π LockTable} {turn : Turn π LockTable}
    (deletes : state.services.locks.failDeletes = false) (leaves : LeavesLocks turn) :
    state.SparesLocks turn := by
  cases turn with
  | advance position =>
      intro operation view task _ _
      exact task.givesBack_of_failDeletes deletes
  | drop position =>
      intro operation _
      exact allReturnable_of_failDeletes operation.held deletes
  | alterLocks locks => exact leaves.elim
  | _ => trivial

theorem Reaches.spares {start state : Interleaving π LockTable}
    (reaches : Reaches (fun _ turn => LeavesLocks turn) start state)
    (deletes : start.services.locks.failDeletes = false) : Reaches SparesLocks start state := by
  have keeps (current : Interleaving π LockTable)
      (reached : Reaches (fun _ turn => LeavesLocks turn) start current) :
      current.services.locks.failDeletes = false := by
    induction reached with
    | start => exact deletes
    | next _ _ leaves ih => exact (step_failDeletes leaves).trans ih
  exact reaches.imp fun current _ reached leaves =>
    sparesLocks_of_failDeletes (keeps current reached) leaves

end Account

/-! ### Standoffs -/

section Standoffs

variable [Platform π] [LawfulLockStore σ] [ListedLockStore σ] [CandidLockStore σ] [Suite]

/-- Two locks are the same exactly if they are for the same natural key or for two that are
confused. So an operation that is refused a lock stands against another one that holds it, and the
two are for the same natural key or for two that are confused. An operation that gets the lock
stands against none. -/
theorem standoff_iff_confused :
    (∀ left right : NaturalKey, left.lockKey = right.lockKey ↔ left = right ∨ left.Confused right) ∧
    ∀ (platform : π) (locks : σ) (clock : Timestamp) (state : Interleaving π σ),
      LockStore.list locks = .ok [] → Reaches SparesLocks (opened platform locks clock) state →
      ∀ position operation key after, state.operations[position]? = some operation →
        operation.wants? = some key →
        (state.step (.advance position)).operations[position]? = some after →
        ∃ own ∈ operation.naturalKeys, own.lockKey = key ∧
          (∀ other, after.failure? = some (.duplicate other) → other = key ∧
            ∃ place ≠ position, ∃ rival, state.operations[place]? = some rival ∧
              ∃ theirs ∈ rival.naturalKeys, (∃ lock ∈ rival.held, lock.key = theirs.lockKey) ∧
                (own = theirs ∨ own.Confused theirs)) ∧
          (after.failure? = none → ∀ rival ∈ state.operations,
            ∀ theirs, own = theirs ∨ own.Confused theirs →
              ∀ lock ∈ rival.held, lock.key ≠ theirs.lockKey) := by
  refine ⟨fun _ _ => NaturalKey.lockKey_eq_iff, ?_⟩
  intro platform locks clock state vacant reaches position operation key after found wants stepped
  have accounted := reaches.accounted (accounted_opened platform clock vacant)
  obtain ⟨view, task, pending, running, next⟩ := Operation.wants?_eq_some_iff.1 wants
  obtain ⟨refused, granted⟩ := accounted.next_lock found running next
  have claiming := accounted.claiming operation (List.mem_of_getElem? found)
  obtain ⟨own, isOwn, sameKey⟩ := claiming.exists_wanted wants
  obtain ⟨coordinator, request, ids, _⟩ := operation
  cases running
  rw [operations_advance found, Option.some.injEq] at stepped
  subst stepped
  refine ⟨own, isOwn, sameKey, fun other failed => ?_, fun succeeds => ?_⟩
  · obtain ⟨isKey, place, isOther, rival, foundRival, lock, isHeld, isFor⟩ :=
      refused other (Operation.failure?_running.1 failed)
    have rivalClaims := accounted.claiming rival (List.mem_of_getElem? foundRival)
    obtain ⟨theirs, isTheirs, isTheirKey⟩ := rivalClaims.exists_naturalKey isHeld
    refine ⟨isKey, place, isOther, rival, foundRival, theirs, isTheirs,
      ⟨lock, isHeld, isTheirKey.symm⟩, NaturalKey.lockKey_eq_iff.1 ?_⟩
    rw [sameKey, isTheirKey, isFor]
  · intro rival isRival theirs confused lock isHeld isFor
    refine granted (fun failure failed => ?_) rival isRival lock isHeld ?_
    · rw [Operation.failure?_running.2 failed] at succeeds
      cases succeeds
    · rw [isFor, ← NaturalKey.lockKey_eq_iff.2 confused, sameKey]

end Standoffs

section Specimens

open Transparent

/-- Another party with the name of the joiner. -/
def namesake : Party := party "Joiner" 3

def underStandard (who : Party) (seed : UInt8) : Coordinator :=
  ⟨who, keys seed, @Registry.standard suite⟩

def blank : Interleaving Ledger LockTable :=
  opened (.empty (@Registry.standard suite)) .empty ⟨1⟩

/-- The founder founds a network, from the checks to the end. -/
def foundedAs (state : Interleaving Ledger LockTable) (networkId : String) (seed : UInt8) :
    Interleaving Ledger LockTable :=
  letI := suite
  state.attempt (underStandard founder 1) (.found ⟨some ⟨networkId⟩, none, none, none⟩)
    (Session.idsOf seed) 6

/-- The joiner has the lock for its application when its namesake comes to its own. -/
def crowded : Interleaving Ledger LockTable :=
  letI := suite
  ((foundedAs blank "net" 8).attempt (underStandard joiner 2) (.apply ⟨⟨"net"⟩, founder, none⟩)
    (Session.idsOf 9) 2).attempt (underStandard namesake 3) (.apply ⟨⟨"net"⟩, founder, none⟩)
    (Session.idsOf 10) 0

def creates (networkId name : String) : Request := .createGroup ⟨⟨networkId⟩, none, some name, []⟩

/-- Of two networks one has an id that begins with the id of the other, and both get a group. -/
def adjoining : Interleaving Ledger LockTable :=
  letI := suite
  ((foundedAs (foundedAs blank "a" 8) "a/b" 9).attempt (underStandard founder 1)
    (creates "a/b" "c") (Session.idsOf 10) 2).attempt (underStandard founder 1)
    (creates "a" "b/c") (Session.idsOf 11) 0

theorem crowded_reached :
    letI := suite
    Reaches SparesLocks blank crowded := by
  let _ := suite
  have goesOn {state : Interleaving Ledger LockTable} {coordinator : Coordinator}
      {request : Request} {ids : FreshIds} {steps : Nat}
      (reached : Reaches (fun _ turn => LeavesLocks turn) blank state) :
      Reaches (fun _ turn => LeavesLocks turn) blank
        (state.attempt coordinator request ids steps) :=
    reached.attempt steps (fun _ => trivial) (fun _ _ _ => trivial) fun _ _ => trivial
  exact (goesOn (goesOn (goesOn .start))).spares rfl

set_option maxRecDepth 10000 in
theorem crowded_outcome :
    letI := suite
    crowded.operations[2]?.bind Operation.wants? =
        some (.ofPendingMembership ⟨"net"⟩ namesake) ∧
      (crowded.step (.advance 2)).operations[2]?.bind Operation.failure? =
        some (.duplicate (.ofPendingMembership ⟨"net"⟩ namesake)) ∧
      (crowded.operations.flatMap Operation.naturalKeys).Nodup := by
  decide +kernel

theorem namesake_stands_against_joiner :
    letI := suite
    ∃ operation after rival, crowded.operations[2]? = some operation ∧
      (crowded.step (.advance 2)).operations[2]? = some after ∧ rival ∈ crowded.operations ∧
      after.failure? = some (.duplicate (.ofPendingMembership ⟨"net"⟩ namesake)) ∧
      ∃ own ∈ operation.naturalKeys, ∃ theirs ∈ rival.naturalKeys,
        own = theirs ∨ own.Confused theirs := by
  let _ := suite
  obtain ⟨wants, fails, _⟩ := crowded_outcome
  obtain ⟨operation, found, wanted⟩ := Option.bind_eq_some_iff.1 wants
  obtain ⟨after, stepped, failed⟩ := Option.bind_eq_some_iff.1 fails
  obtain ⟨own, isOwn, _, refused, _⟩ := (standoff_iff_confused (π := Ledger) (σ := LockTable)).2
    _ _ _ crowded rfl crowded_reached 2 operation _ after found wanted stepped
  obtain ⟨_, place, _, rival, isRival, theirs, isTheirs, _, confused⟩ := refused _ failed
  exact ⟨operation, after, rival, found, stepped, List.mem_of_getElem? isRival, failed,
    own, isOwn, theirs, isTheirs, confused⟩

set_option maxRecDepth 10000 in
/-- In either run the last request is refused, though no two requests are for the same natural
key. -/
theorem refused_for_different_keys :
    letI := suite
    ((NaturalKey.groupName ⟨"a/b"⟩ "c").lockKey = (NaturalKey.groupName ⟨"a"⟩ "b/c").lockKey ∧
      (adjoining.step (.advance 3)).operations[3]?.bind Operation.failure? =
        some (.duplicate (.ofGroupName ⟨"a"⟩ "b/c")) ∧
      (adjoining.operations.flatMap Operation.naturalKeys).Nodup) ∧
    (NaturalKey.pendingMembership ⟨"net"⟩ joiner).lockKey =
        (NaturalKey.pendingMembership ⟨"net"⟩ namesake).lockKey ∧
      (crowded.step (.advance 2)).operations[2]?.bind Operation.failure? =
        some (.duplicate (.ofPendingMembership ⟨"net"⟩ namesake)) ∧
      (crowded.operations.flatMap Operation.naturalKeys).Nodup := by
  refine ⟨?adjoining, rfl, crowded_outcome.2⟩
  decide +kernel

end Specimens

end Interleaving

end Consortium
