/-
  Realm.NodeFile.Escape — the escape code of node files.

  Three byte values are marks: they open a node, close it, or announce that the next byte is plain
  data.  Data bytes that look like a mark are written behind an escape mark.  Unescaping never fails:
  it moves the data to the front of its own buffer, and an escape mark with nothing behind it is dropped.
-/

namespace Realm.NodeFile

/-! ## §1. Marks. -/

/-- Opens a node. -/
def opener : UInt8 := 0xFE

/-- Closes a node. -/
def closer : UInt8 := 0xFF

/-- Announces a byte that is data whatever its value. -/
def escaper : UInt8 := 0xFD

/-- Whether a byte is a mark and so may not stand for itself. -/
def isReserved (b : UInt8) : Bool := b == opener || b == closer || b == escaper

/-! ## §2. Escaping. -/

/-- Data as it stands in a file. -/
def escape (data : List UInt8) : List UInt8 :=
  data.flatMap fun b => if isReserved b then [escaper, b] else [b]

/-! ## §3. Unescaping. -/

/-- **Unescaping in place.**  One pass over the first `size` bytes of a buffer: a byte is taken at `read`,
    behind its escape mark if it has one, and put down at `write`, which is never ahead. -/
def compact (buffer : Array UInt8) (size read write : Nat) : Array UInt8 × Nat :=
  if read < size then
    let place := if buffer[read]? = some escaper then read + 1 else read
    if place < size then
      compact (buffer.setIfInBounds write (buffer.getD place 0)) size (place + 1) (write + 1)
    else (buffer, write)
  else (buffer, write)
termination_by size - read
decreasing_by split <;> omega

/-- The data behind escaped bytes. -/
def unescape (bytes : List UInt8) : List UInt8 :=
  let (buffer, length) := compact bytes.toArray bytes.length 0 0
  buffer.toList.take length

end Realm.NodeFile
