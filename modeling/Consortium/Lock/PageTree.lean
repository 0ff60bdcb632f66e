import Consortium.Lock.Page
import Consortium.Lock.PageFile

/-!
The tree of pages with the entries of an ordered map. It is balanced: its pages stand in levels, and
every page but those of the leaves has one entry for each page of a stretch of the level below. A
change of the tree also says what becomes of pages: those from the root to the changed leaf are
copied, others are split, filled up from a neighbour or merged with one.
-/

namespace Consortium

abbrev PageLevel := List Page

namespace PageLevel

def page (level : PageLevel) (index : Nat) : Page := level.getD index []

/-- How many pages of the level below come before those of a page. -/
def countBefore (level : PageLevel) (index : Nat) : Nat := (level.take index).flatten.length

/-- The page, and the position on it, of the entry for a page of the level below. -/
def locate : PageLevel → (below : Nat) → Nat × Nat
  | [], _ => (0, 0)
  | page :: rest, below =>
      if below < page.length then (0, below)
      else
        let (index, position) := locate rest (below - page.length)
        (index + 1, position)

def eraseEntry (level : PageLevel) (index position : Nat) : PageLevel :=
  level.modify index (·.eraseIdx position)

end PageLevel

structure PageTree where
  levels : List PageLevel
deriving DecidableEq

namespace PageTree

def empty : PageTree := ⟨[]⟩

/-- The first entry of a branch needs no key: what comes before the second belongs to it. -/
def withoutFirstKey (kind : PageKind) : Page → Page
  | [] => []
  | entry :: rest => (if kind = .leaf then entry else .ofPage []) :: rest

/-- Puts an entry on a page, which is split if it has no room. Above the root comes a new root. -/
def insertEntry (kind : PageKind) (index position : Nat) (entry : PageEntry) :
    List PageLevel → List PageLevel × List PageUse
  | [] => ([[[.ofPage [], entry]]], [.take 1])
  | level :: above =>
      let page := level.page index
      let all : Page := page.insertIdx position entry
      if all.used ≤ Page.capacity then (level.set index all :: above, [])
      else
        let kept := page.splitPoint kind position entry
        let right : Page := all.drop kept
        let level :=
          level.take index ++ [all.take kept, withoutFirstKey kind right] ++ level.drop (index + 1)
        let (parent, place) := PageLevel.locate (above.headD []) index
        let (above, uses) := insertEntry .branch parent (place + 1) (.ofPage right.firstKey) above
        (level :: above, .take 1 :: uses)

def changeKey (index position : Nat) (key : List UInt8) :
    List PageLevel → List PageLevel × List PageUse
  | [] => ([], [])
  | level :: above =>
      insertEntry .branch index position (.ofPage key)
        (level.eraseEntry index position :: above)

/-- The page of the level below `above` that a key belongs on. -/
def pageFor (key : List UInt8) : (above : List PageLevel) → Nat
  | [] => 0
  | level :: above =>
      let index := pageFor key above
      level.countBefore index +
        ((level.page index).tail.takeWhile fun entry => (compare entry.key key).isLE).length

/-- The first key on the leaves under a page. The levels go from the page down to the leaves. -/
def firstKeyUnder : List PageLevel → (index : Nat) → List UInt8
  | [], _ => []
  | [leaves], index => (leaves.page index).firstKey
  | level :: below, index => firstKeyUnder below (level.countBefore index)

/-- A page with the first key of its leaves as its first key. The levels go from the page down. -/
def withFirstKey (levels : List PageLevel) (index : Nat) : Page :=
  match levels with
  | [] => []
  | [leaves] => leaves.page index
  | level :: below => .ofPage (firstKeyUnder (level :: below) index) :: (level.page index).tail

/-- Fills up a page with too few entries. A neighbour, the left one if there is one, gives an entry
or is merged with the page, and then the page above may have too few. A root with too few entries is
left out. The levels go from that of the page up; those under it come in `below`, from the next one
down. -/
def rebalance (below : List PageLevel) (index : Nat) :
    List PageLevel → List PageLevel × List PageUse
  | [] => ([], [])
  | [root] =>
      if (root.page index).length < Page.minEntries (if below.isEmpty then .leaf else .branch) then
        ([], [.release])
      else ([root], [])
  | level :: parents :: above =>
      let kind : PageKind := if below.isEmpty then .leaf else .branch
      let page := level.page index
      if page.isSound kind then (level :: parents :: above, [])
      else
        let (parent, place) := PageLevel.locate parents index
        if place = 0 then
          let other : Page := withFirstKey (level :: below) (index + 1)
          if (level.page (index + 1)).canGive kind then
            let kept : Page := other.tail
            let (above, uses) := changeKey parent 1 kept.firstKey (parents :: above)
            (((level.set index (page ++ other.take 1)).set (index + 1)
              (withoutFirstKey kind kept)) :: above, PageUse.copies 1 ++ uses)
          else
            let level := (level.set index (page ++ other)).eraseIdx (index + 1)
            let (above, uses) :=
              rebalance (level :: below) parent (parents.eraseEntry parent 1 :: above)
            (level :: above, .release :: uses)
        else
          let other := level.page (index - 1)
          let own := withFirstKey (level :: below) index
          if other.canGive kind then
            let given : Page := other.drop (other.length - 1)
            let (above, uses) := changeKey parent place given.firstKey (parents :: above)
            (((level.set (index - 1) other.dropLast).set index
              (withoutFirstKey kind (given ++ own))) :: above, PageUse.copies 1 ++ uses)
          else
            let level := (level.set (index - 1) (other ++ own)).eraseIdx index
            let (above, uses) :=
              rebalance (level :: below) parent (parents.eraseEntry parent place :: above)
            (level :: above, PageUse.copies 1 ++ .putBack :: uses)
termination_by levels => levels.length

/-- Takes the entry with a key out of a page. The other part is what is left of it. -/
def takeOut (key : List UInt8) (page : Page) : Page × Page :=
  page.partition fun entry => entry.key = key

/-- Gives up the pages that the values of entries have taken for themselves. -/
def releaseValues (page : Page) : List PageUse :=
  page.flatMap fun entry => List.replicate entry.valuePages .release

def insert (tree : PageTree) (key : List UInt8) (valueLength : Nat) :
    PageTree × List PageUse :=
  let entry := PageEntry.ofRecord key valueLength
  match tree.levels with
  | [] => (⟨[[[entry]]]⟩, [.take 1, .take entry.valuePages])
  | leaves :: above =>
      let index := pageFor key above
      let (old, others) := takeOut key (leaves.page index)
      let position := (others.takeWhile fun other => (compare other.key key).isLT).length
      let (levels, uses) :=
        insertEntry .leaf index position entry (leaves.set index others :: above)
      (⟨levels⟩, PageUse.copies tree.levels.length ++ releaseValues old ++
        .take entry.valuePages :: uses)

def erase (tree : PageTree) (key : List UInt8) : PageTree × List PageUse :=
  match tree.levels with
  | [] => (tree, [])
  | leaves :: above =>
      let index := pageFor key above
      let (old, others) := takeOut key (leaves.page index)
      let (levels, uses) := rebalance [] index (leaves.set index others :: above)
      (⟨levels⟩, PageUse.copies tree.levels.length ++ releaseValues old ++ uses)

end PageTree

end Consortium
