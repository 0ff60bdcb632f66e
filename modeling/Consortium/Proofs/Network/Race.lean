import Consortium.Proofs.Network.Founding
import Consortium.Proofs.Network.GroupIds
import Mathlib.Data.List.Induction
import Mathlib.Logic.Function.Basic

/-!
A race for a network. Several calls found the same network at the same time, and take their steps in
any order. The lock of the network keeps them apart from the moment when one of them has it, but not
before: a call that has found the network vacant, and comes to its lock when another one is already
through, founds the network again.
-/

namespace Consortium

/-! ### Calls -/

/-- A call to a coordinator: it checks its request in one step, and then takes the steps of the
request. -/
inductive Call where
  | asked (coordinator : Coordinator) (request : Request) (ids : FreshIds)
  | refused (failure : NetworkError)
  | running (task : Task)

namespace Call

def heldKeys : Call → List LockKey
  | .asked _ _ _ | .refused _ => []
  | .running task => task.heldKeys

def hasRecorded : Call → Bool
  | .asked _ _ _ | .refused _ => false
  | .running task => task.hasRecorded

/-- The checks have passed, and no lock has been taken yet. -/
def isChecked : Call → Bool
  | .running ⟨_, _, _, [], .locking _⟩ => true
  | _ => false

theorem running_of_isChecked {call : Call} (checked : call.isChecked = true) :
    ∃ task pending, call = .running task ∧ task.progress = .locking pending ∧ task.held = [] := by
  unfold isChecked at checked
  split at checked
  · exact ⟨_, _, rfl, rfl, rfl⟩
  · cases checked

theorem hasRecorded_of_isChecked {call : Call} (checked : call.isChecked = true) :
    call.hasRecorded = false := by
  obtain ⟨task, pending, rfl, progress, _⟩ := running_of_isChecked checked
  rw [hasRecorded, Task.hasRecorded, progress]

section Steps

variable {σ : Type} [LockStore σ] [Suite]

def step (call : Call) (services : Services Ledger σ) : Call × Services Ledger σ :=
  match call with
  | .asked coordinator request ids =>
      match Task.start coordinator request ids services with
      | .ok task => (.running task, services)
      | .error failure => (.refused failure, services)
  | .refused failure => (.refused failure, services)
  | .running task => (.running (task.step services).1, (task.step services).2)

open Consortium.Task

variable {networkId : NetworkId} {call winner : Call}

inductive Founds (networkId : NetworkId) : Call → Prop
  | asked (coordinator : Coordinator) {founding : NetworkFounding} (ids : FreshIds)
      (chosen : founding.networkId = some networkId) :
      Founds networkId (.asked coordinator (.found founding) ids)
  | refused (failure : NetworkError) : Founds networkId (.refused failure)
  | running {task : Task} (founds : task.FoundsNetwork networkId) : Founds networkId (.running task)

/-- A founding is refused, or has found the network vacant and is in flight. -/
theorem step_asked (coordinator : Coordinator) {founding : NetworkFounding} (ids : FreshIds)
    (chosen : founding.networkId = some networkId) (services : Services Ledger σ) :
    (∃ failure, (asked coordinator (.found founding) ids).step services =
        (.refused failure, services)) ∨
      services.platform.networkExists networkId = false ∧
        ∃ task, (asked coordinator (.found founding) ids).step services =
          (.running task, services) ∧ task.FoundsNetwork networkId ∧
          (running task).isChecked = true := by
  rw [step]
  cases started : Task.start coordinator (.found founding) ids services with
  | error failure => exact .inl ⟨failure, rfl⟩
  | ok task =>
      obtain ⟨plan, planned, rfl⟩ := start_eq_ok_iff.1 started
      obtain ⟨vacant, _, isPlan⟩ := Coordinator.planBootstrap_eq_ok_iff.1 planned
      rw [chosen] at vacant isPlan
      refine .inr ⟨vacant, _, rfl, ⟨⟨coordinator, founding, ids, isPlan⟩, ?_, ?_⟩, rfl⟩
      · exact .locking rfl rfl
      · exact List.nil_prefix

theorem Founds.step [LawfulLockStore σ] (founds : call.Founds networkId)
    (services : Services Ledger σ) : (call.step services).1.Founds networkId := by
  cases founds with
  | asked coordinator ids chosen =>
      rcases step_asked coordinator ids chosen services with
        ⟨failure, same⟩ | ⟨_, task, same, founds, _⟩
      · rw [same]
        exact .refused failure
      · rw [same]
        exact .running founds
  | refused failure => exact .refused failure
  | running founds => exact .running (founds.step services)

theorem Founds.step_movesLocks [LawfulLockStore σ] (founds : call.Founds networkId)
    (services : Services Ledger σ) :
    MovesLocks call.heldKeys services.locks (call.step services).1.heldKeys
      (call.step services).2.locks := by
  cases founds with
  | asked coordinator ids chosen =>
      rcases step_asked coordinator ids chosen services with
        ⟨failure, same⟩ | ⟨_, task, same, _, checked⟩
      · rw [same]
        exact .keeps
      · obtain ⟨_, _, isTask, _, nothing⟩ := running_of_isChecked checked
        cases isTask
        rw [same, heldKeys, heldKeys, Task.heldKeys, nothing]
        exact .keeps
  | refused failure => exact .keeps
  | running founds => exact Task.step_movesLocks _ services

theorem Founds.writes (founds : call.Founds networkId) (services : Services Ledger σ) :
    Writes networkId (call.step services).1.heldKeys call.hasRecorded
      (call.step services).1.hasRecorded services.platform (call.step services).2.platform := by
  cases founds with
  | asked coordinator ids chosen =>
      rcases step_asked coordinator ids chosen services with
        ⟨failure, same⟩ | ⟨_, task, same, _, checked⟩
      · rw [same]
        exact .nothing rfl rfl
      · rw [same]
        exact .nothing rfl (hasRecorded_of_isChecked checked)
  | refused failure => exact .nothing rfl rfl
  | running founds => exact founds.writes services

/-- Once the winner has founded the network, the call does not record its proposal any more: it will
find the network or, if it found none before, come to a lock that the winner still holds. -/
inductive Bars (winner : Call) : Call → Prop
  | asked (coordinator : Coordinator) (request : Request) (ids : FreshIds) :
      Bars winner (.asked coordinator request ids)
  | refused (failure : NetworkError) : Bars winner (.refused failure)
  | checked {call : Call} (checked : call.isChecked = true) (blocked : winner.heldKeys ≠ []) :
      Bars winner call
  | failed {task : Task} {failure : NetworkError}
      (progress : task.progress = .releasing (.error failure)) : Bars winner (.running task)

omit [Suite] in
theorem Founds.network_held (founds : call.Founds networkId) (holds : call.heldKeys ≠ []) :
    .ofNetwork networkId ∈ call.heldKeys := by
  cases founds with
  | asked coordinator ids chosen => exact absurd rfl holds
  | refused failure => exact absurd rfl holds
  | running founds =>
      apply founds.network_held
      intro nothing
      apply holds
      rw [heldKeys, Task.heldKeys, nothing, List.map_nil]

omit [Suite] in
theorem Bars.of_blocked {other : Call} (bars : winner.Bars call)
    (blocked : call.isChecked = true → other.heldKeys ≠ []) : other.Bars call := by
  cases bars with
  | asked coordinator request ids => exact .asked coordinator request ids
  | refused failure => exact .refused failure
  | checked checked _ => exact .checked checked (blocked checked)
  | failed progress => exact .failed progress

omit [Suite] in
/-- A call that does not hold the lock of the network is barred by one that does. -/
theorem Founds.isBarred (founds : call.Founds networkId)
    (outside : .ofNetwork networkId ∉ call.heldKeys) (unrecorded : call.hasRecorded = false)
    (blocked : winner.heldKeys ≠ []) : Bars winner call := by
  cases founds with
  | asked coordinator ids chosen => exact .asked coordinator _ ids
  | refused failure => exact .refused failure
  | @running task founds =>
      have nothing : task.held = [] := by
        by_contra holds
        exact outside (founds.network_held holds)
      obtain ⟨coordinator, plan, ids, held, progress⟩ := task
      cases progress with
      | locking pending =>
          cases nothing
          exact .checked rfl blocked
      | collecting tx => exact absurd nothing (founds.held_of_out (.inl rfl))
      | verifying tx => exact absurd nothing (founds.held_of_out (.inr (.inl rfl)))
      | finalizing tx => exact absurd nothing (founds.held_of_out (.inr (.inr rfl)))
      | releasing result =>
          cases result with
          | error failure => exact .failed rfl
          | ok outcome => cases unrecorded

theorem step_of_hasRecorded (recorded : call.hasRecorded = true) (services : Services Ledger σ) :
    (call.step services).1.hasRecorded = true ∧
      (call.step services).2.platform = services.platform := by
  cases call with
  | asked coordinator request ids => cases recorded
  | refused failure => cases recorded
  | running task =>
      obtain ⟨coordinator, plan, ids, held, progress⟩ := task
      cases progress with
      | releasing result => cases held <;> exact ⟨recorded, rfl⟩
      | locking pending => cases recorded
      | collecting tx => cases recorded
      | verifying tx => cases recorded
      | finalizing tx => cases recorded

theorem step_of_bars [LawfulLockStore σ] (bars : Bars winner call)
    (founds : call.Founds networkId) (winnerFounds : winner.Founds networkId)
    {services : Services Ledger σ} (secured : Secured winner.heldKeys services.locks)
    (founded : services.platform.networkExists networkId = true) :
    Bars winner (call.step services).1 ∧
      (call.step services).2.platform = services.platform := by
  cases bars with
  | asked coordinator request ids =>
      cases founds with
      | asked _ _ chosen =>
          rcases step_asked coordinator ids chosen services with ⟨failure, same⟩ | ⟨vacant, _⟩
          · rw [same]
            exact ⟨.refused failure, rfl⟩
          · cases vacant.symm.trans founded
  | refused failure => exact ⟨.refused failure, rfl⟩
  | checked checked blocked =>
      obtain ⟨task, pending, rfl, progress, nothing⟩ := running_of_isChecked checked
      cases founds with
      | running founds =>
          obtain ⟨others, rfl⟩ := founds.pending_eq progress nothing
          have occupied := secured.occupied _ (winnerFounds.network_held blocked)
          obtain ⟨⟨failure, failed⟩, untouched⟩ := task.lock_of_occupied others occupied
          rw [step, Task.step, progress]
          exact ⟨.failed failed, untouched⟩
  | @failed task failure progress =>
      obtain ⟨coordinator, plan, ids, held, _⟩ := task
      cases progress
      cases held <;> exact ⟨.failed rfl, rfl⟩

end Steps

end Call

/-! ### The race -/

structure Race (ι σ : Type) where
  services : Services Ledger σ
  calls : ι → Call

namespace Race

open Consortium.Task

section Running

variable {ι σ : Type} [DecidableEq ι] [LockStore σ] [Suite]

def opened (services : Services Ledger σ) (coordinators : ι → Coordinator)
    (foundings : ι → NetworkFounding) (ids : ι → FreshIds) : Race ι σ :=
  ⟨services, fun caller => .asked (coordinators caller) (.found (foundings caller)) (ids caller)⟩

def step (race : Race ι σ) (caller : ι) : Race ι σ :=
  ⟨((race.calls caller).step race.services).2,
    Function.update race.calls caller ((race.calls caller).step race.services).1⟩

def run (race : Race ι σ) (schedule : List ι) : Race ι σ := schedule.foldl step race

theorem run_concat (race : Race ι σ) (schedule : List ι) (caller : ι) :
    race.run (schedule ++ [caller]) = (race.run schedule).step caller := by
  rw [run, run, List.foldl_append, List.foldl_cons, List.foldl_nil]

theorem calls_step_self (race : Race ι σ) (caller : ι) :
    (race.step caller).calls caller = ((race.calls caller).step race.services).1 :=
  Function.update_self caller _ race.calls

theorem calls_step_of_ne (race : Race ι σ) {caller other : ι} (isOther : other ≠ caller) :
    (race.step caller).calls other = race.calls other :=
  Function.update_of_ne isOther _ race.calls

/-- The late call has passed its checks but has no lock yet, and the early one has recorded its
founding and has given back its locks. -/
structure Overtakes (race : Race ι σ) (early late : ι) : Prop where
  recorded : (race.calls early).hasRecorded = true
  through : (race.calls early).heldKeys = []
  checked : (race.calls late).isChecked = true

/-! What the locks keep apart. -/

variable [LawfulLockStore σ] {networkId : NetworkId} {race : Race ι σ}

/-- All calls found the network, and what they hold is in place and held once. -/
structure Guarded (networkId : NetworkId) (race : Race ι σ) : Prop where
  founds : ∀ caller, (race.calls caller).Founds networkId
  secured : ∀ caller, Secured (race.calls caller).heldKeys race.services.locks
  apart : ∀ caller other, other ≠ caller →
    ∀ key ∈ (race.calls other).heldKeys, key ∉ (race.calls caller).heldKeys

omit [DecidableEq ι] [Suite] in
theorem guarded_opened {services : Services Ledger σ} {coordinators : ι → Coordinator}
    {foundings : ι → NetworkFounding} (ids : ι → FreshIds)
    (chosen : ∀ caller, (foundings caller).networkId = some networkId) :
    Guarded networkId (opened services coordinators foundings ids) where
  founds caller := .asked (coordinators caller) (ids caller) (chosen caller)
  secured _ := ⟨List.nodup_nil, fun _ held => nomatch held⟩
  apart _ _ _ _ held := nomatch held

theorem Guarded.step (guarded : Guarded networkId race) (caller : ι) :
    Guarded networkId (race.step caller) := by
  have moves := (guarded.founds caller).step_movesLocks race.services
  -- What another call holds stays in place, and is not what this one takes.
  have foreign {other : ι} (isOther : other ≠ caller) (key : LockKey)
      (held : key ∈ (race.calls other).heldKeys) :
      Foreign key ((race.calls caller).step race.services).1.heldKeys
        (race.step caller).services.locks := by
    apply moves.foreign
    exact ⟨guarded.apart caller other isOther key held,
      (guarded.secured other).occupied key held⟩
  constructor
  · intro other
    by_cases isCaller : other = caller
    · rw [isCaller, calls_step_self]
      exact (guarded.founds caller).step race.services
    · rw [calls_step_of_ne race isCaller]
      exact guarded.founds other
  · intro other
    by_cases isCaller : other = caller
    · rw [isCaller, calls_step_self]
      exact moves.secured (guarded.secured caller)
    · rw [calls_step_of_ne race isCaller]
      exact ⟨(guarded.secured other).distinct, fun key held => (foreign isCaller key held).occupied⟩
  · intro first second apart key held
    by_cases isFirst : first = caller
    · subst isFirst
      rw [calls_step_of_ne race apart] at held
      rw [calls_step_self]
      exact (foreign apart key held).notHeld
    · rw [calls_step_of_ne race isFirst]
      by_cases isSecond : second = caller
      · rw [isSecond, calls_step_self] at held
        intro again
        exact (foreign isFirst key again).notHeld held
      · rw [calls_step_of_ne race isSecond] at held
        exact guarded.apart first second apart key held

theorem Guarded.run (guarded : Guarded networkId race) (schedule : List ι) :
    Guarded networkId (race.run schedule) := by
  induction schedule generalizing race with
  | nil => exact guarded
  | cons caller rest ih => exact ih (guarded.step caller)

/-! How many foundings are recorded. -/

/-- Nobody has recorded a founding since the log was as given, or one of the calls has done so and
bars all others. -/
inductive Standing (networkId : NetworkId) (log : List Transaction) (race : Race ι σ) : Prop
  | undecided (sameLog : race.services.platform.transactions = log)
      (nobody : ∀ caller, (race.calls caller).hasRecorded = false) : Standing networkId log race
  | won {winner : ι} (recorded : (race.calls winner).hasRecorded = true)
      (founded : race.services.platform.networkExists networkId = true)
      (once : race.services.platform.transactions.length = log.length + 1)
      (bars : ∀ other, other ≠ winner → (race.calls winner).Bars (race.calls other)) :
      Standing networkId log race

theorem Standing.step {log : List Transaction} (standing : Standing networkId log race)
    (guarded : Guarded networkId race) (caller : ι)
    (fair : ∀ early late, ¬ (race.step caller).Overtakes early late) :
    Standing networkId log (race.step caller) := by
  have after := guarded.step caller
  cases standing with
  | undecided sameLog nobody =>
      have writes := (guarded.founds caller).writes race.services
      rw [← calls_step_self] at writes
      cases writes with
      | nothing kept same =>
          refine .undecided (kept.trans sameLog) fun other => ?_
          by_cases isCaller : other = caller
          · rw [isCaller, same, nobody]
          · rw [calls_step_of_ne race isCaller, nobody]
      | founding log holds recorded founded =>
          refine .won recorded founded ?_ fun other isOther => ?_
          · change ((race.step caller).services.platform).transactions = _ at log
            rw [log, sameLog, List.length_append, List.length_singleton]
          · -- Nobody else has the lock of the network, so nobody else is past it.
            have outside := after.apart other caller isOther.symm _ holds
            refine (after.founds other).isBarred outside ?_ (List.ne_nil_of_mem holds)
            rw [calls_step_of_ne race isOther, nobody]
  | @won winner recorded founded once bars =>
      by_cases isCaller : winner = caller
      · subst isCaller
        obtain ⟨stillRecorded, untouched⟩ := Call.step_of_hasRecorded recorded race.services
        rw [← calls_step_self] at stillRecorded
        change (race.step winner).services.platform = _ at untouched
        rw [← untouched] at founded once
        refine .won stillRecorded founded once fun other isOther => ?_
        -- A call that has come to the lock would be overtaken if the winner let go of it now.
        have barred := bars other isOther
        rw [← calls_step_of_ne race isOther] at barred
        exact barred.of_blocked fun checked through =>
          fair winner other ⟨stillRecorded, through, checked⟩
      · have barred := bars caller (Ne.symm isCaller)
        obtain ⟨stillBarred, untouched⟩ := Call.step_of_bars barred (guarded.founds caller)
          (guarded.founds winner) (guarded.secured winner) founded
        change (race.step caller).services.platform = _ at untouched
        rw [← untouched] at founded once
        rw [← calls_step_of_ne race isCaller] at recorded stillBarred
        refine .won recorded founded once fun other isOther => ?_
        by_cases isStepped : other = caller
        · rw [isStepped, calls_step_self]
          exact stillBarred
        · rw [calls_step_of_ne race isStepped, calls_step_of_ne race isCaller]
          exact bars other isOther

theorem Standing.run {log : List Transaction} (standing : Standing networkId log race)
    (guarded : Guarded networkId race) (schedule : List ι)
    (fair : ∀ before after, schedule = before ++ after →
      ∀ early late, ¬ (race.run before).Overtakes early late) :
    Standing networkId log (race.run schedule) := by
  induction schedule using List.reverseRecOn with
  | nil => exact standing
  | append_singleton earlier caller ih =>
      rw [run_concat]
      have before : Standing networkId log (race.run earlier) := by
        apply ih
        intro before after split
        apply fair before (after ++ [caller])
        rw [split, List.append_assoc]
      apply before.step (guarded.run earlier) caller
      rw [← run_concat]
      exact fair _ [] (List.append_nil _).symm

/-- Of any calls that found the same network only one is recorded, unless one of them is overtaken
between its checks and its lock. -/
theorem exists_overtakes_of_foundings (services : Services Ledger σ)
    (coordinators : ι → Coordinator) (foundings : ι → NetworkFounding) (ids : ι → FreshIds)
    (chosen : ∀ caller, (foundings caller).networkId = some networkId) (schedule : List ι)
    (twice : services.platform.transactions.length + 1 < ((opened services coordinators foundings
      ids).run schedule).services.platform.transactions.length) :
    ∃ before after early late, schedule = before ++ after ∧
      ((opened services coordinators foundings ids).run before).Overtakes early late := by
  by_contra fair
  have guarded : Guarded networkId (opened services coordinators foundings ids) :=
    guarded_opened ids chosen
  have start : Standing networkId services.platform.transactions
    (opened services coordinators foundings ids) := .undecided rfl fun _ => rfl
  have standing := start.run guarded schedule fun before after split early late overtakes =>
    fair ⟨before, after, early, late, split, overtakes⟩
  cases standing with
  | undecided sameLog _ =>
      rw [sameLog] at twice
      omega
  | won _ _ once _ => omega

end Running

open Transparent

def rivals : Race Bool LockTable :=
  opened ⟨.empty (@Registry.standard suite), .empty, ⟨1⟩⟩
    (fun isJoiner => if isJoiner then ⟨joiner, keys 2, @Registry.standard suite⟩
      else ⟨founder, keys 1, @Registry.standard suite⟩)
    (fun _ => ⟨some ⟨"net"⟩, none, none, none⟩)
    (fun isJoiner => Session.idsOf (if isJoiner then 9 else 8))

/-- Both check that the network is vacant. Then first the one and then the other goes on. -/
def bothFirst : List Bool := [false, true] ++ List.replicate 6 false ++ List.replicate 6 true

def raced : Race Bool LockTable := @run _ _ _ _ suite rivals bothFirst

set_option maxRecDepth 10000 in
theorem joiner_is_overtaken :
    rivals.services.platform.transactions.length + 1 <
        raced.services.platform.transactions.length ∧
      ∃ before after early late, bothFirst = before ++ after ∧
        (@run _ _ _ _ suite rivals before).Overtakes early late := by
  have twice : rivals.services.platform.transactions.length + 1 <
      raced.services.platform.transactions.length := by decide +kernel
  refine ⟨twice, ?_⟩
  exact @exists_overtakes_of_foundings _ _ _ _ suite _ _ _ _ _ _ (fun _ => rfl) bothFirst twice

set_option maxRecDepth 10000 in
theorem both_rivals_record :
    rivals.services.platform.networkExists ⟨"net"⟩ = false ∧
      (raced.calls false).hasRecorded = true ∧ (raced.calls true).hasRecorded = true ∧
      raced.services.platform.transactions.length = 2 := by
  decide +kernel

end Race

end Consortium
