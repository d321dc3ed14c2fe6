/-
  Realm.NodeFile.BlockCache — the three blocks of a file that a cached reader keeps in memory.

  A block starts at a multiple of the block size and holds what the file has from there on, up to a
  block's length.  The block used last is tried first, then the others, and only then the file.

  Main statement: `blockSize_pos` — a block is never empty of room, whatever the file's length.
-/
import Realm.NodeFile.Error

namespace Realm.NodeFile

/-! ## §1. Blocks and slots. -/

/-- A stretch of the file in memory. -/
structure Block where
  base : Nat
  data : Array UInt8
deriving Repr, DecidableEq

/-- How many blocks are kept. -/
abbrev slotCount : Nat := 3

/-- The name of a slot. -/
abbrev Slot : Type := Fin slotCount

/-- The blocks kept, and the slot used last. -/
structure BlockCache where
  blockSize : Nat
  slots : Vector (Option Block) slotCount
  current : Option Slot
deriving Repr, DecidableEq

/-- The step between the sizes a block can have. -/
def blockUnit : Nat := 8192

/-- **Block size.**  A twentieth of the file, at least one unit and at most four, in whole units. -/
def blockSizeFor (fileSize : Nat) : Nat :=
  min (max (fileSize / 20) blockUnit) (4 * blockUnit) / blockUnit * blockUnit

theorem blockSizeFor_pos (fileSize : Nat) : 0 < blockSizeFor fileSize := by
  unfold blockSizeFor blockUnit
  omega

namespace BlockCache

/-- The empty cache for a file of a given size. -/
def forFileSize (fileSize : Nat) : BlockCache :=
  ⟨blockSizeFor fileSize, Vector.replicate slotCount none, none⟩

/-- Where the block that covers a position starts. -/
def alignedBase (c : BlockCache) (position : Nat) : Nat := position - position % c.blockSize

/-- The slot that holds the block covering a position. -/
def slotCovering (c : BlockCache) (position : Nat) : Option Slot :=
  (List.finRange slotCount).find? fun i =>
    match c.slots[i] with
    | some b => b.base == c.alignedBase position
    | none => false

/-- Distance between two places. -/
def distance (a b : Nat) : Nat := (a - b) + (b - a)

/-- The slot that a new block starting at `base` takes: a free one, else the first whose block is more
    than two blocks away, else the first. -/
def victimFor (c : BlockCache) (base : Nat) : Slot :=
  match (List.finRange slotCount).find? fun i => c.slots[i].isNone with
  | some free => free
  | none =>
    ((List.finRange slotCount).find? fun i =>
      match c.slots[i] with
      | some b => distance b.base base > 2 * c.blockSize
      | none => false).getD 0

/-! ## §2. Finding a block. -/

/-- Whether the slot used last covers a position. -/
def currentCovers (c : BlockCache) (position : Nat) : Option Slot :=
  c.current.filter fun i =>
    match c.slots[i] with
    | some b => b.base ≤ position && position - b.base < c.blockSize
    | none => false

/-- The block of a file that starts at `base`. -/
def load (c : BlockCache) (file : Array UInt8) (base : Nat) : Block :=
  ⟨base, file.extract base (base + c.blockSize)⟩

/-- **The block for a position,** and the cache after the search.  A block that ends before the
    position is of no use: then nothing is kept and no slot counts as used. -/
def blockFor (c : BlockCache) (file : Array UInt8) (position : Nat) :
    Except Error Block × BlockCache :=
  let use (c : BlockCache) (i : Slot) : Except Error Block × BlockCache :=
    match c.slots[i] with
    | some b => (.ok b, { c with current := some i })
    | none => (.error .cacheFailed, c)
  match c.currentCovers position with
  | some i => use c i
  | none =>
    match c.slotCovering position with
    | some i => use c i
    | none =>
      let base := c.alignedBase position
      let block := c.load file base
      if block.data.size < position - base then (.error .cacheFailed, { c with current := none })
      else
        let i := c.victimFor base
        (.ok block, { c with slots := c.slots.set i (some block), current := some i })

end BlockCache

end Realm.NodeFile
