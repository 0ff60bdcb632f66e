import Consortium.Proofs.Network.History
import Mathlib.Data.List.Lattice

/-!
What becomes of the references on a ledger that starts empty. A reference names the transaction
that created it by its id, so one that has been consumed comes back only with a transaction of the
same id. As inputs have to be current, that is a transaction without any. The contracts have no
part in this.
-/

namespace Consortium

theorem SortedMap.exists_find?_foldl_insert {κ ν α : Type} [Ord κ] [Std.LawfulEqOrd κ]
    [Std.TransOrd κ] (key : α → κ) (value : α → ν) (elements : List α) (map : SortedMap κ ν)
    {other : κ} (known : other ∈ elements.map key ∨ ∃ found, map.find? other = some found) :
    ∃ found, (elements.foldl (fun map element => map.insert (key element) (value element))
      map).find? other = some found := by
  induction elements generalizing map with
  | nil => simpa using known
  | cons first rest ih =>
      apply ih
      by_cases same : other = key first
      · subst same
        exact .inr ⟨_, find?_insert_self map _ _⟩
      · rw [find?_insert_of_ne map _ same]
        rcases known with member | earlier
        · exact .inl ((List.mem_cons.1 member).resolve_left same)
        · exact .inr earlier

namespace Transaction

/-- All that the id commits to. -/
def contents (tx : Transaction) :
    List StateAndRef × List TransactionState × List StateAndRef × List Command :=
  (tx.inputs, tx.outputs, tx.references, tx.commands)

def consumed (tx : Transaction) : List StateRef := tx.inputs.map StateAndRef.reference

section Signing

variable [Suite]

def created (tx : Transaction) : List StateRef :=
  (Ledger.recordedOutputs tx).map StateAndRef.reference

theorem txId_of_mem_created {tx : Transaction} {reference : StateRef}
    (member : reference ∈ tx.created) : reference.txId = tx.id := by
  obtain ⟨recorded, isOutput, rfl⟩ := List.mem_map.1 member
  obtain ⟨_, _, rfl⟩ := List.mem_map.1 isOutput
  rfl

/-- The transaction has nothing to consume, was recorded before, and creates once more what has
been consumed since. -/
structure Revives (tx : Transaction) (log : List Transaction) : Prop where
  noInputs : tx.inputs = []
  repeated : ∃ origin ∈ log, origin.contents = tx.contents
  consumed : ∃ reference ∈ tx.created, reference ∈ log.flatMap Transaction.consumed

theorem not_revives_of_unspent {tx : Transaction} {log : List Transaction}
    (unspent : ∀ earlier ∈ log, earlier.inputs = []) : ¬ tx.Revives log := by
  intro ⟨_, _, reference, _, spent⟩
  obtain ⟨spender, inLog, consumes⟩ := List.mem_flatMap.1 spent
  simp [Transaction.consumed, unspent spender inLog] at consumes

end Signing

end Transaction

/-- No two transactions consume the same reference. -/
def ConsumedOnce (log : List Transaction) : Prop :=
  log.Pairwise fun first second => first.consumed.Disjoint second.consumed

section Signing

variable [Suite]

/-- Transactions with different contents have different ids. -/
def ToldApart (transactions : List Transaction) : Prop :=
  ∀ first ∈ transactions, ∀ second ∈ transactions,
    first.id = second.id → first.contents = second.contents

instance (transactions : List Transaction) : Decidable (ToldApart transactions) :=
  inferInstanceAs (Decidable (∀ first ∈ transactions, ∀ second ∈ transactions,
    first.id = second.id → first.contents = second.contents))

/-- No transaction of the log revives what earlier ones consumed. -/
def Unrevived (log : List Transaction) : Prop :=
  ∀ before tx after, log = before ++ tx :: after → ¬ tx.Revives before

theorem ToldApart.mono {few many : List Transaction} (toldApart : ToldApart many)
    (included : few ⊆ many) : ToldApart few :=
  fun first isFirst second isSecond =>
    toldApart first (included isFirst) second (included isSecond)

theorem Unrevived.of_prefix {log longer : List Transaction} (unrevived : Unrevived longer)
    (isPrefix : log <+: longer) : Unrevived log := by
  obtain ⟨rest, rfl⟩ := isPrefix
  rintro before tx after rfl
  exact unrevived before tx (after ++ rest) (by simp)

theorem unrevived_nil : Unrevived [] := by
  intro before tx after split
  simp at split

theorem Unrevived.concat {log : List Transaction} {last : Transaction} (unrevived : Unrevived log)
    (fresh : ¬ last.Revives log) : Unrevived (log ++ [last]) := by
  intro before tx after split
  rcases split_concat split with ⟨rfl, rfl, _⟩ | ⟨rest, isEarlier⟩
  · exact fresh
  · exact unrevived before tx rest isEarlier

namespace Ledger

variable {ledger : Ledger} {tx : Transaction}

theorem exists_state_of_mem_created {reference : StateRef} (isNew : reference ∈ tx.created) :
    ∃ recorded ∈ (ledger.record tx).states, recorded.reference = reference := by
  obtain ⟨state, found⟩ := SortedMap.exists_find?_foldl_insert StateAndRef.reference
    StateAndRef.state (recordedOutputs tx)
    (tx.inputs.foldl (fun map input => map.erase input.reference) ledger.unconsumed)
    (.inl isNew)
  exact ⟨⟨state, reference⟩, mem_states.2 found, rfl⟩

/-! ### One transaction more -/

/-- What has been consumed is not current. -/
def Settled (ledger : Ledger) : Prop :=
  ∀ recorded ∈ ledger.states,
    recorded.reference ∉ ledger.transactions.flatMap Transaction.consumed

/-- Every reference was created by a transaction of the log, and consumed for good. -/
structure Accounted (ledger : Ledger) : Prop where
  created : ∀ recorded ∈ ledger.states,
    ∃ origin ∈ ledger.transactions, recorded.reference ∈ origin.created
  sources : ∀ reference ∈ ledger.transactions.flatMap Transaction.consumed,
    ∃ origin ∈ ledger.transactions, reference ∈ origin.created
  settled : ledger.Settled
  once : ConsumedOnce ledger.transactions

theorem accounted_empty (contracts : Registry) : (empty contracts).Accounted where
  created recorded member := by cases member
  sources reference member := by cases member
  settled recorded member := by cases member
  once := .nil

omit [Suite] in
theorem Accepts.exists_state_of_mem_consumed (accepts : ledger.Accepts tx)
    {reference : StateRef} (member : reference ∈ tx.consumed) :
    ∃ recorded ∈ ledger.states, recorded.reference = reference := by
  obtain ⟨input, isInput, rfl⟩ := List.mem_map.1 member
  exact ⟨input, accepts.current input (List.mem_append_left _ isInput), rfl⟩

namespace Accounted

variable (accounted : ledger.Accounted) (accepts : ledger.Accepts tx)

include accounted accepts

theorem not_mem_consumed {reference : StateRef} (member : reference ∈ tx.consumed) :
    reference ∉ ledger.transactions.flatMap Transaction.consumed := by
  obtain ⟨recorded, current, rfl⟩ := accepts.exists_state_of_mem_consumed member
  exact accounted.settled recorded current

theorem exists_origin {reference : StateRef}
    (member : reference ∈ (ledger.transactions ++ [tx]).flatMap Transaction.consumed) :
    ∃ origin ∈ ledger.transactions, reference ∈ origin.created := by
  rw [List.flatMap_append, List.flatMap_singleton, List.mem_append] at member
  rcases member with earlier | now
  · exact accounted.sources reference earlier
  · obtain ⟨recorded, current, rfl⟩ := accepts.exists_state_of_mem_consumed now
    exact accounted.created recorded current

/-- Of two transactions of the same contents, the ledger takes the second only without inputs. -/
theorem inputs_eq_nil {origin : Transaction} (inLog : origin ∈ ledger.transactions)
    (sameContents : origin.contents = tx.contents) : tx.inputs = [] := by
  have sameInputs : origin.inputs = tx.inputs := congrArg Prod.fst sameContents
  apply List.eq_nil_iff_forall_not_mem.2
  intro input isInput
  apply accounted.not_mem_consumed accepts (List.mem_map_of_mem isInput)
  rw [← sameInputs] at isInput
  exact List.mem_flatMap.2 ⟨origin, inLog, List.mem_map_of_mem isInput⟩

variable (toldApart : ToldApart (ledger.transactions ++ [tx]))
  (unrevived : ¬ tx.Revives ledger.transactions)

include toldApart unrevived

theorem created_not_consumed {reference : StateRef} (isNew : reference ∈ tx.created) :
    reference ∉ (ledger.transactions ++ [tx]).flatMap Transaction.consumed := by
  intro spent
  obtain ⟨origin, inLog, isOld⟩ := accounted.exists_origin accepts spent
  -- A reference carries the id of its transaction, so both transactions have the same one.
  have sameId : origin.id = tx.id :=
    (Transaction.txId_of_mem_created isOld).symm.trans (Transaction.txId_of_mem_created isNew)
  have sameContents := toldApart origin (List.mem_append_left _ inLog) tx (by simp) sameId
  have noInputs := accounted.inputs_eq_nil accepts inLog sameContents
  refine unrevived ⟨noInputs, ⟨origin, inLog, sameContents⟩, reference, isNew, ?_⟩
  simpa [Transaction.consumed, noInputs] using spent

theorem record : (ledger.record tx).Accounted where
  created := by
    intro recorded member
    rcases mem_states_record member with isNew | ⟨earlier, _⟩
    · exact ⟨tx, by simp [Ledger.record], List.mem_map_of_mem isNew⟩
    · obtain ⟨origin, inLog, isOld⟩ := accounted.created recorded earlier
      exact ⟨origin, List.mem_append_left _ inLog, isOld⟩
  sources := by
    intro reference member
    obtain ⟨origin, inLog, isOld⟩ := accounted.exists_origin accepts member
    exact ⟨origin, List.mem_append_left _ inLog, isOld⟩
  settled := by
    intro recorded member
    rcases mem_states_record member with isNew | ⟨earlier, unconsumed⟩
    · exact accounted.created_not_consumed accepts toldApart unrevived (List.mem_map_of_mem isNew)
    · rw [Ledger.record, List.flatMap_append, List.flatMap_singleton, List.mem_append]
      rintro (before | now)
      · exact accounted.settled recorded earlier before
      · obtain ⟨input, isInput, same⟩ := List.mem_map.1 now
        exact unconsumed input isInput same
  once := by
    refine List.pairwise_append.2 ⟨accounted.once, List.pairwise_singleton _ tx, ?_⟩
    intro spender inLog last isLast reference before now
    rw [List.mem_singleton.1 isLast] at now
    exact accounted.not_mem_consumed accepts now (List.mem_flatMap.2 ⟨spender, inLog, before⟩)

end Accounted

/-! ### A whole history -/

theorem transactions_prefix_finalizeAll (ledger : Ledger) (history : List Transaction) :
    ledger.transactions <+: (ledger.finalizeAll history).transactions := by
  refine finalizeAll_induction ?start ?recorded ?refused history
  case start => exact List.prefix_rfl
  case recorded =>
    intro earlier tx _ grows
    exact grows.trans (List.prefix_append _ [tx])
  case refused => exact fun earlier tx grows => grows

section

variable {contracts : Registry} {history : List Transaction}

theorem transactions_finalizeAll_subset (contracts : Registry) (history : List Transaction) :
    ((empty contracts).finalizeAll history).transactions ⊆ history := by
  refine finalizeAll_induction ?start ?recorded ?refused history
  case start => exact List.nil_subset []
  case recorded =>
    intro earlier tx _ included
    exact List.append_subset.2 ⟨List.Subset.trans included (List.subset_append_left earlier [tx]),
      List.subset_append_right earlier [tx]⟩
  case refused =>
    intro earlier tx included
    exact List.Subset.trans included (List.subset_append_left earlier [tx])

theorem exists_prefix_of_recorded {before : List Transaction} (after : List Transaction)
    (log : ((empty contracts).finalizeAll history).transactions = before ++ tx :: after) :
    ∃ earlier, earlier ++ [tx] <+: history ∧
      ((empty contracts).finalizeAll earlier).transactions = before ∧
        ((empty contracts).finalizeAll earlier).Accepts tx := by
  revert after
  refine finalizeAll_induction ?start ?recorded ?refused history
  case start => simp [empty]
  case recorded =>
    intro earlier last accepts ih after log
    rcases split_concat log with ⟨same, rfl, _⟩ | ⟨rest, isEarlier⟩
    · exact ⟨earlier, List.prefix_rfl, same, accepts⟩
    · obtain ⟨moment, isPrefix, found⟩ := ih rest isEarlier
      exact ⟨moment, isPrefix.trans (List.prefix_append earlier [last]), found⟩
  case refused =>
    intro earlier last ih after log
    obtain ⟨moment, isPrefix, found⟩ := ih after log
    exact ⟨moment, isPrefix.trans (List.prefix_append earlier [last]), found⟩

theorem accounted_finalizeAll (toldApart : ToldApart history)
    (unrevived : Unrevived ((empty contracts).finalizeAll history).transactions) :
    ((empty contracts).finalizeAll history).Accounted := by
  revert toldApart unrevived
  refine finalizeAll_induction ?start ?recorded ?refused history
  case start => exact fun _ _ => accounted_empty contracts
  case recorded =>
    intro earlier tx accepts ih toldApart unrevived
    have accounted := ih (toldApart.mono (List.subset_append_left earlier [tx]))
      (unrevived.of_prefix (List.prefix_append _ [tx]))
    have inHistory : ((empty contracts).finalizeAll earlier).transactions ++ [tx] ⊆
        earlier ++ [tx] := by
      have included := transactions_finalizeAll_subset contracts (earlier ++ [tx])
      rwa [finalizeAll_concat_of_accepts accepts] at included
    exact accounted.record accepts (toldApart.mono inHistory) (unrevived _ tx [] rfl)
  case refused =>
    intro earlier tx ih toldApart unrevived
    exact ih (toldApart.mono (List.subset_append_left earlier [tx])) unrevived

/-- Whatever is finalized on an empty ledger, no reference is consumed twice and none comes back
after it was consumed, exactly if no transaction without inputs is recorded again after one of its
outputs has been consumed. -/
theorem consumed_for_good_iff (contracts : Registry) (toldApart : ToldApart history) :
    ConsumedOnce ((empty contracts).finalizeAll history).transactions ∧
        (∀ earlier, earlier <+: history → ((empty contracts).finalizeAll earlier).Settled) ↔
      Unrevived ((empty contracts).finalizeAll history).transactions := by
  constructor
  · intro ⟨_, settled⟩ before tx after log ⟨_, _, reference, isNew, spent⟩
    -- The ledger was not settled right after it recorded the transaction again.
    obtain ⟨earlier, isPrefix, rfl, accepts⟩ := exists_prefix_of_recorded after log
    have settledThen := settled (earlier ++ [tx]) isPrefix
    rw [finalizeAll_concat_of_accepts accepts] at settledThen
    obtain ⟨recorded, current, rfl⟩ := exists_state_of_mem_created isNew
    refine settledThen recorded current ?_
    rw [record, List.flatMap_append]
    exact List.mem_append_left _ spent
  · intro unrevived
    constructor
    · exact (accounted_finalizeAll toldApart unrevived).once
    · rintro earlier ⟨later, rfl⟩
      have grows := transactions_prefix_finalizeAll ((empty contracts).finalizeAll earlier) later
      rw [← finalizeAll_append] at grows
      have toldApartThen := toldApart.mono (List.subset_append_left earlier later)
      exact (accounted_finalizeAll toldApartThen (unrevived.of_prefix grows)).settled

end

end Ledger

end Signing

/-! ### A founding that is sent in again -/

section Specimen

open Transparent

def secondFounding : List Transaction := [founding, founding, rebranding]

def lateFounding : List Transaction := [founding, rebranding, founding, rebranding]

set_option maxRecDepth 10000 in
theorem toldApart_rebranding : @ToldApart suite [founding, rebranding] := by
  decide +kernel

namespace Ledger

/-- The founding is recorded twice, but nothing has been consumed by then. -/
theorem founders_record_is_consumed_once :
    @ToldApart suite secondFounding ∧
      ConsumedOnce
        (@finalizeAll suite secondFounding (empty (@Registry.standard suite))).transactions ∧
      ∀ earlier, earlier <+: secondFounding →
        (@finalizeAll suite earlier (empty (@Registry.standard suite))).Settled := by
  have toldApart : @ToldApart suite secondFounding :=
    @ToldApart.mono suite _ _ toldApart_rebranding (by simp [secondFounding])
  have again : founded.Accepts founding := ⟨by decide +kernel, by decide +kernel⟩
  have last : (@record suite founded founding).Accepts rebranding :=
    ⟨by decide +kernel, by decide +kernel⟩
  have log : (@finalizeAll suite secondFounding
      (empty (@Registry.standard suite))).transactions = [founding, founding, rebranding] := by
    rw [secondFounding, finalizeAll_founding, @finalizeAll_cons_of_accepts suite _ _ again,
      @finalizeAll_cons_of_accepts suite _ _ last]
    rfl
  have unrevived : @Unrevived suite [founding, founding, rebranding] := by
    have first := @Unrevived.concat suite [] founding (@unrevived_nil suite)
      (@Transaction.not_revives_of_unspent suite _ _ (List.forall_mem_nil _))
    have second := @Unrevived.concat suite [founding] founding first
      (@Transaction.not_revives_of_unspent suite _ _ (List.forall_mem_singleton.2 rfl))
    have hasInput : rebranding.inputs ≠ [] := by simp [rebranding, Transaction.sign]
    exact @Unrevived.concat suite [founding, founding] rebranding second
      fun revives => hasInput (@Transaction.Revives.noInputs suite _ _ revives)
  rw [← log] at unrevived
  exact ⟨toldApart, (@consumed_for_good_iff suite secondFounding _ toldApart).2 unrevived⟩

/-- The founding is recorded once more after the founder's membership has been consumed. That
makes the consumed membership current, and it is consumed a second time. -/
theorem founders_record_is_consumed_twice :
    @ToldApart suite lateFounding ∧
      ¬ ConsumedOnce
        (@finalizeAll suite lateFounding (empty (@Registry.standard suite))).transactions ∧
      ¬ (@finalizeAll suite (lateFounding.take 3) (empty (@Registry.standard suite))).Settled := by
  have toldApart : @ToldApart suite lateFounding :=
    @ToldApart.mono suite _ _ toldApart_rebranding (by simp [lateFounding])
  have again : (@record suite founded rebranding).Accepts founding :=
    ⟨by decide +kernel, by decide +kernel⟩
  have last : (@record suite (@record suite founded rebranding) founding).Accepts rebranding :=
    ⟨by decide +kernel, by decide +kernel⟩
  have isInput : foundersRecord ∈ rebranding.inputs := by simp [rebranding, Transaction.sign]
  have consumed : foundersRecord.reference ∈ rebranding.consumed := List.mem_map_of_mem isInput
  refine ⟨toldApart, ?twice, ?current⟩
  case twice =>
    rw [lateFounding, finalizeAll_founding,
      @finalizeAll_cons_of_accepts suite _ _ founded_accepts_rebranding,
      @finalizeAll_cons_of_accepts suite _ _ again, @finalizeAll_cons_of_accepts suite _ _ last]
    intro once
    have apart := (List.pairwise_cons.1 (List.pairwise_cons.1 once).2).1 rebranding (by simp)
    exact apart consumed consumed
  case current =>
    have taken : lateFounding.take 3 = [founding, rebranding, founding] := rfl
    rw [taken, finalizeAll_founding,
      @finalizeAll_cons_of_accepts suite _ _ founded_accepts_rebranding,
      @finalizeAll_cons_of_accepts suite _ _ again]
    intro settled
    refine settled foundersRecord (last.current _ (List.mem_append_left _ isInput)) ?_
    exact List.mem_flatMap.2 ⟨rebranding, by simp [finalizeAll, record], consumed⟩

end Ledger

end Specimen

end Consortium
