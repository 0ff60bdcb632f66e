/-!
The pages that keep the entries of an ordered map of byte strings. A page has room for a fixed
number of bytes. Where one more entry has no room the page is split in two, and a page with too few
entries is to be filled up.
-/

namespace Consortium

/-- A leaf has the records, a branch one entry for each page of the level below. -/
inductive PageKind where
  | leaf
  | branch
deriving DecidableEq

structure PageEntry where
  key : List UInt8
  /-- How many bytes of its page the entry takes. -/
  room : Nat
  /-- How many pages the value of the entry takes for itself. -/
  valuePages : Nat
deriving DecidableEq

namespace PageEntry

/-- The room for an entry with `length` bytes of contents: eight bytes come before them, the whole
has an even length, and two bytes say where on the page it is. -/
def roomFor (length : Nat) : Nat := (length + 9) / 2 * 2 + 2

/-- How long a key and a value may be together to stand on a page with other entries. -/
def maxContents : Nat := 2030

/-- The entry of a branch for the page with the keys from `key` on. -/
def ofPage (key : List UInt8) : PageEntry := ⟨key, roomFor key.length, 0⟩

/-- The entry of a leaf for a record. A long value stands on pages of its own, the first of which
begins with sixteen bytes that are not the value's; the entry then has the number of that page. -/
def ofRecord (key : List UInt8) (valueLength : Nat) : PageEntry :=
  if key.length + valueLength ≤ maxContents then ⟨key, roomFor (key.length + valueLength), 0⟩
  else ⟨key, roomFor (key.length + 8), (valueLength + 15) / 4096 + 1⟩

end PageEntry

abbrev Page := List PageEntry

namespace Page

/-- How many bytes of a page its entries can take. -/
def capacity : Nat := 4080

def used : Page → Nat
  | [] => 0
  | entry :: rest => entry.room + used rest

def firstKey (page : Page) : List UInt8 := (page.head?.map PageEntry.key).getD []

def fitting : (room : Nat) → Page → Nat
  | _, [] => 0
  | room, entry :: rest => if entry.room ≤ room then fitting (room - entry.room) rest + 1 else 0

/-- How many entries stay on the page when it is split to make room for `entry`, which is counted.
If that comes last, it moves with the one before it. Many small entries are halved. Otherwise half
of them and one more stay, except on a branch with the new entry in that half; but neither page gets
more than it has room for. -/
def splitPoint (kind : PageKind) (page : Page) (position : Nat) (entry : PageEntry) : Nat :=
  let all := page.insertIdx position entry
  let half := (page.length + 1) / 2
  if page.length ≤ position then page.length - 1
  else if 32 ≤ page.length ∧ entry.room ≤ capacity / 16 then half
  else if position ≤ half then
    min (fitting capacity all) (if kind = .leaf then half + 1 else half)
  else max (all.length - fitting capacity all.reverse) (half + 1)

def minEntries : PageKind → Nat
  | .leaf => 1
  | .branch => 2

/-- A leaf is to be filled to a quarter. -/
def isFilled (kind : PageKind) (page : Page) : Bool :=
  kind = .branch ∨ capacity / 4 ≤ page.used

def isSound (kind : PageKind) (page : Page) : Bool :=
  page.isFilled kind ∧ minEntries kind ≤ page.length

def canGive (kind : PageKind) (page : Page) : Bool :=
  page.isFilled kind ∧ minEntries kind < page.length

end Page

end Consortium
