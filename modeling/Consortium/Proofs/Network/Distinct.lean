import Consortium.Proofs.Network.Session

/-!
States that are told apart by something they hold, such as an id. A ledger never comes to have two
current states with the same one if a proposal only brings in what is neither on the ledger nor
brought in by another proposal in flight.
-/

namespace Consortium

variable {κ : Type} (index : ContractState → Option κ)

namespace Transaction

def Distinguishes (tx : Transaction) : Prop :=
  tx.outputs.Pairwise fun left right =>
    ∀ key, index left.data = some key → index right.data ≠ some key

/-- The transaction has an output with the key, and does not consume the state that had it. -/
structure Introduces (tx : Transaction) (key : κ) : Prop where
  created : ∃ output ∈ tx.outputs, index output.data = some key
  notConsumed : ∀ input ∈ tx.inputs, index input.state.data ≠ some key

variable {index} {tx draft : Transaction}

theorem Introduces.of_unsigned (same : tx.unsigned = draft.unsigned) {key : κ}
    (introduces : tx.Introduces index key) : draft.Introduces index key := by
  obtain ⟨created, notConsumed⟩ := introduces
  change ∃ output ∈ tx.unsigned.outputs, _ at created
  change ∀ input ∈ tx.unsigned.inputs, _ at notConsumed
  rw [same] at created notConsumed
  exact ⟨created, notConsumed⟩

theorem Distinguishes.of_unsigned (same : tx.unsigned = draft.unsigned)
    (distinguishes : draft.Distinguishes index) : tx.Distinguishes index := by
  change tx.unsigned.outputs.Pairwise _
  rw [same]
  exact distinguishes

end Transaction

namespace Ledger

def Occupies (ledger : Ledger) (key : κ) : Prop :=
  ∃ recorded ∈ ledger.states, index recorded.state.data = some key

def Distinguishes (ledger : Ledger) : Prop :=
  ∀ first ∈ ledger.states, ∀ second ∈ ledger.states, ∀ key,
    index first.state.data = some key → index second.state.data = some key → first = second

theorem states_eq_of_unconsumed {ledger other : Ledger}
    (same : other.unconsumed = ledger.unconsumed) : other.states = ledger.states := by
  rw [states, states, same]

variable {index} [Suite] {ledger : Ledger} {tx : Transaction}

theorem eq_of_mem_recordedOutputs (distinguishes : tx.Distinguishes index)
    {first second : StateAndRef} (isFirst : first ∈ recordedOutputs tx)
    (isSecond : second ∈ recordedOutputs tx) {key : κ}
    (firstKey : index first.state.data = some key)
    (secondKey : index second.state.data = some key) : first = second := by
  obtain ⟨⟨state, position⟩, indexed, rfl⟩ := List.mem_map.1 isFirst
  obtain ⟨⟨other, otherPosition⟩, otherIndexed, rfl⟩ := List.mem_map.1 isSecond
  have atPosition := List.getElem?_eq_some_iff.1 (List.mem_zipIdx_iff_getElem?.1 indexed)
  have atOther := List.getElem?_eq_some_iff.1 (List.mem_zipIdx_iff_getElem?.1 otherIndexed)
  obtain ⟨inRange, isState⟩ := atPosition
  obtain ⟨otherInRange, isOther⟩ := atOther
  have pairwise := List.pairwise_iff_getElem.1 distinguishes
  rcases Nat.lt_trichotomy position otherPosition with before | same | after
  · have apart := pairwise position otherPosition inRange otherInRange before key
    rw [isState, isOther] at apart
    exact absurd secondKey (apart firstKey)
  · subst same
    cases isState.symm.trans isOther
    rfl
  · have apart := pairwise otherPosition position otherInRange inRange after key
    rw [isState, isOther] at apart
    exact absurd firstKey (apart secondKey)

/-- What is on a ledger after a transaction was there before, or has been brought in by it. -/
theorem occupies_of_record (accepts : ledger.Accepts tx) {key : κ}
    (occupies : (ledger.record tx).Occupies index key) :
    ledger.Occupies index key ∨ tx.Introduces index key := by
  obtain ⟨recorded, member, hasKey⟩ := occupies
  rcases mem_states_record member with isNew | ⟨isOld, _⟩
  · by_cases consumed : ∃ input ∈ tx.inputs, index input.state.data = some key
    · obtain ⟨input, isInput, inputKey⟩ := consumed
      exact .inl ⟨input, accepts.current input (List.mem_append_left _ isInput), inputKey⟩
    · refine .inr ⟨⟨recorded.state, state_of_mem_recordedOutputs isNew, hasKey⟩, ?_⟩
      intro input isInput inputKey
      exact consumed ⟨input, isInput, inputKey⟩
  · exact .inl ⟨recorded, isOld, hasKey⟩

theorem Distinguishes.record (distinguishes : ledger.Distinguishes index)
    (accepts : ledger.Accepts tx) (separate : tx.Distinguishes index)
    (vacant : ∀ key, tx.Introduces index key → ¬ ledger.Occupies index key) :
    (ledger.record tx).Distinguishes index := by
  -- A new state and one that stays cannot agree: the key was consumed, or was not there at all.
  have apart {created kept : StateAndRef} (isNew : created ∈ recordedOutputs tx)
      (isOld : kept ∈ ledger.states)
      (unconsumed : ∀ input ∈ tx.inputs, input.reference ≠ kept.reference) {key : κ}
      (newKey : index created.state.data = some key)
      (oldKey : index kept.state.data = some key) : False := by
    refine vacant key ⟨⟨created.state, state_of_mem_recordedOutputs isNew, newKey⟩, ?_⟩
      ⟨kept, isOld, oldKey⟩
    intro input isInput inputKey
    have current := accepts.current input (List.mem_append_left _ isInput)
    have same := distinguishes input current kept isOld key inputKey oldKey
    exact unconsumed input isInput (congrArg StateAndRef.reference same)
  intro first isFirst second isSecond key firstKey secondKey
  rcases mem_states_record isFirst with firstNew | ⟨firstOld, firstKept⟩
  · rcases mem_states_record isSecond with secondNew | ⟨secondOld, secondKept⟩
    · exact eq_of_mem_recordedOutputs separate firstNew secondNew firstKey secondKey
    · exact (apart firstNew secondOld secondKept firstKey secondKey).elim
  · rcases mem_states_record isSecond with secondNew | ⟨secondOld, secondKept⟩
    · exact (apart secondNew firstOld firstKept secondKey firstKey).elim
    · exact distinguishes first firstOld second secondOld key firstKey secondKey

end Ledger

namespace Plan

def Introduces (plan : Plan) (key : κ) : Prop :=
  ∃ now, (plan.draft now).Introduces index key

def Distinguishes (plan : Plan) : Prop :=
  ∀ now, (plan.draft now).Distinguishes index

variable {index} {plan : Plan}

theorem distinguishes_of_few (few : ∀ now, (plan.draft now).outputs.length ≤ 1) :
    plan.Distinguishes index := by
  intro now
  have short := few now
  unfold Transaction.Distinguishes
  generalize (plan.draft now).outputs = outputs at short
  match outputs, short with
  | [], _ => exact .nil
  | [output], _ => exact List.pairwise_singleton _ _

theorem Introduces.exists_output {key : κ} (introduces : plan.Introduces index key) :
    ∃ now, ∃ output ∈ (plan.draft now).outputs, index output.data = some key := by
  obtain ⟨now, introduces⟩ := introduces
  exact ⟨now, introduces.created⟩

theorem not_introduces_of_kept
    (kept : ∀ now, ∀ output ∈ (plan.draft now).outputs, ∀ key, index output.data = some key →
      ∃ input ∈ (plan.draft now).inputs, index input.state.data = some key) (key : κ) :
    ¬ plan.Introduces index key := by
  intro ⟨now, introduces⟩
  obtain ⟨output, isOutput, hasKey⟩ := introduces.created
  obtain ⟨input, isInput, inputKey⟩ := kept now output isOutput key hasKey
  exact introduces.notConsumed input isInput inputKey

end Plan

namespace Session

/-- The states on the ledger are told apart, and will be whichever of the proposals in flight are
recorded, in any order. -/
structure Exclusive (ledger : Ledger) (inFlight : List Task) : Prop where
  distinguishes : ledger.Distinguishes index
  drafts : ∀ task ∈ inFlight, task.plan.Distinguishes index
  vacant : ∀ task ∈ inFlight, ∀ key, task.plan.Introduces index key → ¬ ledger.Occupies index key
  apart : inFlight.Pairwise fun left right =>
    ∀ key, left.plan.Introduces index key → ¬ right.plan.Introduces index key

variable {index} {ledger current : Ledger} {inFlight : List Task} {plan : Plan}

theorem occupies_of_settles [Suite] (settles : Task.Settles plan ledger current) {key : κ}
    (occupies : current.Occupies index key) :
    ledger.Occupies index key ∨ plan.Introduces index key := by
  cases settles with
  | nothing proposals => exact .inl occupies
  | @records tx now proposals proposes accepts =>
      rcases Ledger.occupies_of_record accepts occupies with before | introduces
      · exact .inl before
      · exact .inr ⟨now, introduces.of_unsigned proposes⟩

theorem distinguishes_of_settles [Suite] (settles : Task.Settles plan ledger current)
    (distinguishes : ledger.Distinguishes index) (drafts : plan.Distinguishes index)
    (vacant : ∀ key, plan.Introduces index key → ¬ ledger.Occupies index key) :
    current.Distinguishes index := by
  cases settles with
  | nothing proposals => exact distinguishes
  | @records tx now proposals proposes accepts =>
      have separate := Transaction.Distinguishes.of_unsigned proposes (drafts now)
      refine distinguishes.record accepts separate fun key introduces => ?_
      exact vacant key ⟨now, introduces.of_unsigned proposes⟩

namespace Exclusive

theorem empty (contracts : Registry) : Exclusive index (.empty contracts) [] where
  distinguishes _ member := nomatch member
  drafts _ member := nomatch member
  vacant _ member := nomatch member
  apart := .nil

theorem restate (exclusive : Exclusive index ledger inFlight)
    (same : current.unconsumed = ledger.unconsumed) : Exclusive index current inFlight := by
  have states := Ledger.states_eq_of_unconsumed same
  obtain ⟨distinguishes, drafts, vacant, apart⟩ := exclusive
  unfold Ledger.Distinguishes at distinguishes
  unfold Ledger.Occupies at vacant
  rw [← states] at distinguishes vacant
  exact ⟨distinguishes, drafts, vacant, apart⟩

theorem cons (exclusive : Exclusive index ledger inFlight) {task : Task}
    (drafts : task.plan.Distinguishes index)
    (vacant : ∀ key, task.plan.Introduces index key → ¬ ledger.Occupies index key)
    (apart : ∀ other ∈ inFlight, ∀ key, task.plan.Introduces index key →
      ¬ other.plan.Introduces index key) : Exclusive index ledger (task :: inFlight) where
  distinguishes := exclusive.distinguishes
  drafts := List.forall_mem_cons.2 ⟨drafts, exclusive.drafts⟩
  vacant := List.forall_mem_cons.2 ⟨vacant, exclusive.vacant⟩
  apart := List.pairwise_cons.2 ⟨apart, exclusive.apart⟩

theorem settle [Suite] (exclusive : Exclusive index ledger inFlight) {position : Nat}
    {task : Task} (found : inFlight[position]? = some task)
    (settles : Task.Settles task.plan ledger current) :
    Exclusive index current (inFlight.eraseIdx position) where
  distinguishes := by
    have isInFlight := List.mem_of_getElem? found
    exact distinguishes_of_settles settles exclusive.distinguishes
      (exclusive.drafts task isInFlight) (exclusive.vacant task isInFlight)
  drafts other isOther := exclusive.drafts other (List.mem_of_mem_eraseIdx isOther)
  vacant other isOther key introduces occupies := by
    rcases occupies_of_settles settles occupies with before | isOwn
    · exact exclusive.vacant other (List.mem_of_mem_eraseIdx isOther) key introduces before
    · have symmetric (left right : Task)
          (apart : ∀ key, left.plan.Introduces index key → ¬ right.plan.Introduces index key)
          (key : κ) (fromRight : right.plan.Introduces index key) :
          ¬ left.plan.Introduces index key :=
        fun fromLeft => apart key fromLeft fromRight
      exact rel_of_mem_eraseIdx symmetric exclusive.apart found isOther key introduces isOwn
  apart := exclusive.apart.sublist (List.eraseIdx_sublist _ _)

end Exclusive

end Session

end Consortium
