/-!
The pages of a file that is changed by copying. A write fills pages that nothing uses and releases
those that it replaces. What it releases is free for the write after the next, so that the state
before a write stands until the next one is done.
-/

namespace Consortium

/-- What a write does with pages. -/
inductive PageUse where
  /-- It fills so many in a row. -/
  | take (count : Nat)
  /-- It gives up one, for later writes. -/
  | release
  /-- It gives up one that it has filled itself, and may fill it again. -/
  | putBack
deriving DecidableEq

namespace PageUse

/-- What it is to replace `count` pages by changed copies. -/
def copies (count : Nat) : List PageUse := (List.replicate count [take 1, release]).flatten

end PageUse

/-- Free pages, with the number of the write that has released them. -/
structure FreePages where
  write : Nat
  count : Nat
deriving DecidableEq

structure PageFile where
  /-- How many pages the file may have. -/
  size : Nat
  /-- How many pages have ever been used. -/
  reached : Nat
  /-- The number of the last write. -/
  writes : Nat
  free : List FreePages
deriving DecidableEq

namespace PageFile

/-- A file with a catalog of its contents. Two pages say where the catalog is, before and after the
last write. -/
def create? (size : Nat) : Option PageFile :=
  if size < 4 then none else some ⟨size, 3, 1, []⟩

structure Draft where
  reached : Nat
  /-- The lists of free pages that the write has not turned to. -/
  free : List FreePages
  /-- What is left of those that it has, under the number of the last. -/
  opened : Option FreePages
  /-- How many pages it has filled and put back. -/
  back : Nat
  released : Nat

namespace Draft

/-- Takes pages in a row that have never been used. The last page of the file stays unused. -/
def takeNew (file : PageFile) (count : Nat) (draft : Draft) : Option Draft :=
  if draft.reached + count < file.size then some { draft with reached := draft.reached + count }
  else none

/-- Takes a page that has been put back, else a free page, else a new one. The pages that the last
write has released are not free yet. -/
def takeOne (file : PageFile) (draft : Draft) : Option Draft :=
  if 0 < draft.back then some { draft with back := draft.back - 1 }
  else
    match draft.opened, draft.free with
    | some ⟨write, count + 1⟩, _ => some { draft with opened := some ⟨write, count⟩ }
    | _, ⟨write, count⟩ :: rest =>
        if write < file.writes then
          some { draft with opened := some ⟨write, count - 1⟩, free := rest }
        else draft.takeNew file 1
    | _, [] => draft.takeNew file 1

def use (file : PageFile) (draft : Draft) : PageUse → Option Draft
  | .take 1 => draft.takeOne file
  | .take count => draft.takeNew file count
  | .release => some { draft with released := draft.released + 1 }
  | .putBack => some { draft with back := draft.back + 1 }

/-- Where no list of free pages has been opened, pages that were put back are released. -/
def settleBack (draft : Draft) : Draft :=
  if draft.opened.isSome then draft
  else { draft with back := 0, released := draft.released + draft.back }

def left (draft : Draft) : List FreePages :=
  match draft.opened with
  | some ⟨write, count⟩ =>
      if count + draft.back = 0 then [] else [⟨write, count + draft.back⟩]
  | none => []

end Draft

/-- A write that uses pages in this way for the contents of the file. It copies the catalog too, and
at the end the page with the lists of free pages, once there is one. -/
def write? (file : PageFile) (uses : List PageUse) : Option PageFile := do
  let start : Draft := ⟨file.reached, file.free, none, 0, 0⟩
  let draft ← (PageUse.copies 1 ++ uses).foldlM (Draft.use file) start
  let draft ← draft.settleBack.takeOne file
  let released := if file.free.isEmpty then draft.released else draft.released + 1
  some { file with
    reached := draft.reached
    writes := file.writes + 1
    free := draft.left ++ draft.free ++ [⟨file.writes + 1, released⟩] }

end PageFile

end Consortium
