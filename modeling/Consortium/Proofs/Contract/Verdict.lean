import Consortium.Contract.Structure

/-!
Chains of checks. A chain succeeds exactly when each of its checks does, so what an accepted
transaction satisfies is read off the checks of its contract.
-/

namespace Consortium

theorem bind_eq_ok_iff {ε α β : Type} {step : Except ε α} {next : α → Except ε β} {value : β} :
    (step >>= next) = .ok value ↔
      ∃ intermediate, step = .ok intermediate ∧ next intermediate = .ok value := by
  cases step with
  | error failure => simp [bind, Except.bind]
  | ok intermediate => simp [bind, Except.bind]

theorem bind_eq_error_iff {ε α β : Type} {step : Except ε α} {next : α → Except ε β}
    {failure : ε} :
    (step >>= next) = .error failure ↔
      step = .error failure ∨ ∃ value, step = .ok value ∧ next value = .error failure := by
  cases step with
  | error first => simp [bind, Except.bind]
  | ok value => simp [bind, Except.bind]

theorem check_bind_eq_ok_iff {ε β : Type} {check : Except ε Unit} {next : Unit → Except ε β}
    {value : β} :
    (check >>= next) = .ok value ↔ check = .ok () ∧ next () = .ok value := by
  rw [bind_eq_ok_iff]
  constructor
  · intro ⟨⟨⟩, checked, continued⟩
    exact ⟨checked, continued⟩
  · intro ⟨checked, continued⟩
    exact ⟨(), checked, continued⟩

theorem forM_eq_ok_iff {ε α : Type} {check : α → Except ε Unit} {elements : List α} :
    elements.forM check = .ok () ↔ ∀ element ∈ elements, check element = .ok () := by
  induction elements with
  | nil => exact iff_of_true rfl (by simp)
  | cons first rest ih =>
      rw [List.forall_mem_cons, ← ih]
      exact check_bind_eq_ok_iff

theorem forM_congr {ε α : Type} {check recheck : α → Except ε Unit} {elements : List α}
    (same : ∀ element ∈ elements, check element = recheck element) :
    elements.forM check = elements.forM recheck := by
  induction elements with
  | nil => rfl
  | cons first rest ih =>
      obtain ⟨head, tail⟩ := List.forall_mem_cons.1 same
      change (check first >>= fun _ => rest.forM check) =
        (recheck first >>= fun _ => rest.forM recheck)
      rw [head, ih tail]

namespace Transaction

theorem singleCommand_eq_ok_iff {τ : Type} {tx : Transaction} {kind : EntityKind}
    {select : CommandValue → Option τ} {picked : Command × τ} :
    tx.singleCommand kind select = .ok picked ↔ tx.selectCommands select = [picked] := by
  unfold singleCommand
  match tx.selectCommands select with
  | [] => simp
  | [single] => simp
  | first :: second :: rest => simp

theorem mem_commands_of_select {τ : Type} {tx : Transaction}
    {select : CommandValue → Option τ} {command : Command} {value : τ}
    (single : tx.selectCommands select = [(command, value)]) :
    command ∈ tx.commands ∧ select command.value = some value := by
  have member : (command, value) ∈ tx.selectCommands select := by
    rw [single]
    exact List.mem_singleton_self _
  obtain ⟨found, inCommands, picked⟩ := List.mem_filterMap.1 member
  obtain ⟨_, selected, pair⟩ := Option.map_eq_some_iff.1 picked
  cases pair
  exact ⟨inCommands, selected⟩

/-- Where one command of a family is selected, no other one is there. -/
theorem eq_of_select {τ : Type} {tx : Transaction}
    {select : CommandValue → Option τ} {command other : Command} {value otherValue : τ}
    (single : tx.selectCommands select = [(command, value)])
    (inCommands : other ∈ tx.commands) (selected : select other.value = some otherValue) :
    other = command ∧ otherValue = value := by
  have member : (other, otherValue) ∈ tx.selectCommands select :=
    List.mem_filterMap.2 ⟨other, inCommands, by rw [selected]; rfl⟩
  rw [single, List.mem_singleton] at member
  cases member
  exact ⟨rfl, rfl⟩

end Transaction

end Consortium
