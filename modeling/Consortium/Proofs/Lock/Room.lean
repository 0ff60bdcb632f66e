import Consortium.Lock.Environment

/-!
Room in the file of an environment. A write takes no more new pages than its uses ask for, so it
succeeds if the file has that many left.
-/

namespace Consortium

namespace PageUse

/-- How many pages a use may take that nothing has used before. -/
def reach : PageUse → Nat
  | take count => count
  | release | putBack => 0

def reachAll : List PageUse → Nat
  | [] => 0
  | use :: rest => use.reach + reachAll rest

/-- How many pages a write with these uses may take. It copies the catalog, and at the end it fills
a page with the lists of free pages. -/
def need (uses : List PageUse) : Nat := reachAll (copies 1 ++ uses) + 1

end PageUse

namespace PageFile

variable {file : PageFile}

namespace Draft

variable {draft : Draft}

theorem takeNew_of_room {count : Nat} (room : draft.reached + count < file.size) :
    ∃ next, draft.takeNew file count = some next ∧ next.reached ≤ draft.reached + count :=
  ⟨_, if_pos room, Nat.le_refl _⟩

theorem takeOne_of_room (room : draft.reached + 1 < file.size) :
    ∃ next, draft.takeOne file = some next ∧ next.reached ≤ draft.reached + 1 := by
  unfold takeOne
  split
  · exact ⟨_, rfl, Nat.le_succ _⟩
  · split
    · exact ⟨_, rfl, Nat.le_succ _⟩
    · split
      · exact ⟨_, rfl, Nat.le_succ _⟩
      · exact takeNew_of_room room
    · exact takeNew_of_room room

theorem use_of_room {use : PageUse} (room : draft.reached + use.reach < file.size) :
    ∃ next, draft.use file use = some next ∧ next.reached ≤ draft.reached + use.reach := by
  unfold Draft.use
  split
  · exact takeOne_of_room room
  · exact takeNew_of_room room
  · exact ⟨_, rfl, Nat.le_refl _⟩
  · exact ⟨_, rfl, Nat.le_refl _⟩

theorem foldlM_use_of_room {uses : List PageUse}
    (room : draft.reached + PageUse.reachAll uses < file.size) :
    ∃ next, uses.foldlM (Draft.use file) draft = some next ∧
      next.reached ≤ draft.reached + PageUse.reachAll uses := by
  induction uses generalizing draft with
  | nil => exact ⟨draft, rfl, Nat.le_refl _⟩
  | cons use rest ih =>
      rw [PageUse.reachAll, ← Nat.add_assoc] at room ⊢
      have roomNow : draft.reached + use.reach < file.size :=
        Nat.lt_of_le_of_lt (Nat.le_add_right _ _) room
      obtain ⟨used, isUsed, reached⟩ := use_of_room roomNow
      have roomLater : used.reached + PageUse.reachAll rest < file.size := by omega
      obtain ⟨next, isNext, further⟩ := ih roomLater
      refine ⟨next, ?_, by omega⟩
      rw [List.foldlM_cons, isUsed]
      exact isNext

theorem reached_settleBack (draft : Draft) : draft.settleBack.reached = draft.reached := by
  unfold settleBack
  split <;> rfl

end Draft

theorem write?_of_room {uses : List PageUse} (room : file.reached + PageUse.need uses < file.size) :
    ∃ changed, file.write? uses = some changed ∧ changed.size = file.size ∧
      changed.reached ≤ file.reached + PageUse.need uses := by
  let start : Draft := ⟨file.reached, file.free, none, 0, 0⟩
  unfold PageUse.need at room ⊢
  have roomForUses : start.reached + PageUse.reachAll (PageUse.copies 1 ++ uses) < file.size :=
    Nat.lt_of_succ_lt room
  obtain ⟨used, isUsed, reached⟩ := Draft.foldlM_use_of_room roomForUses
  have roomForLists : used.settleBack.reached + 1 < file.size := by
    rw [Draft.reached_settleBack]
    exact Nat.lt_of_le_of_lt (Nat.succ_le_succ reached) room
  obtain ⟨last, isLast, further⟩ := Draft.takeOne_of_room roomForLists
  rw [Draft.reached_settleBack] at further
  let released := if file.free.isEmpty then last.released else last.released + 1
  refine ⟨{ file with
    reached := last.reached
    writes := file.writes + 1
    free := last.left ++ last.free ++ [⟨file.writes + 1, released⟩] }, ?_, rfl,
    Nat.le_trans further (Nat.succ_le_succ reached)⟩
  change ((PageUse.copies 1 ++ uses).foldlM (Draft.use file) start).bind _ = _
  rw [isUsed]
  change (used.settleBack.takeOne file).bind _ = _
  rw [isLast]
  rfl

end PageFile

namespace LockEnvironment

theorem commit_of_room (records : SortedMap (List UInt8) (List UInt8)) (tree : PageTree)
    (newRecords : SortedMap (List UInt8) (List UInt8)) (change : PageTree × List PageUse)
    {file : PageFile} (room : file.reached + PageUse.need change.2 < file.size) :
    ∃ grown : PageFile,
      commit ⟨records, tree, file⟩ newRecords change = .ok ⟨newRecords, change.1, grown⟩ ∧
        grown.size = file.size ∧ grown.reached ≤ file.reached + PageUse.need change.2 := by
  obtain ⟨grown, written, size, reached⟩ := PageFile.write?_of_room room
  refine ⟨grown, ?_, size, reached⟩
  rw [commit, written]

theorem error_of_commit {environment : LockEnvironment}
    {records : SortedMap (List UInt8) (List UInt8)} {change : PageTree × List PageUse}
    {failure : StoreError} (committed : environment.commit records change = .error failure) :
    failure = mapFull := by
  unfold commit at committed
  split at committed
  · cases committed
  · cases committed
    rfl

end LockEnvironment

end Consortium
