/-
  Realm.Blob.Cursor — reading typed fields off a property blob.

  A blob is a byte list.  A cursor is a place in it: how much was read and what is left.  Every read is
  **all or nothing**: it either takes exactly the bytes of its field, or it takes none.
-/
import Realm.Bytes.LittleEndian
import Realm.Text.Utf8

namespace Realm

/-- A place in a blob. -/
structure Cursor where
  /-- Bytes read so far. -/
  position : Nat
  /-- Bytes not yet read. -/
  rest : List UInt8
deriving Repr, DecidableEq

namespace Cursor

/-- The beginning of a blob. -/
def ofBytes (bytes : List UInt8) : Cursor := ⟨0, bytes⟩

/-- Bytes not yet read. -/
def remaining (c : Cursor) : Nat := c.rest.length

/-- The next `n` bytes, when there are that many. -/
def take? (c : Cursor) (n : Nat) : Option (List UInt8 × Cursor) :=
  let taken := c.rest.take n
  if taken.length = n then some (taken, ⟨c.position + n, c.rest.drop n⟩) else none

/-! ## §1. Numbers: little-endian words. -/

/-- A little-endian number of `width` bytes. -/
def number? (c : Cursor) (width : Nat) : Option (Nat × Cursor) :=
  (c.take? width).map fun (bytes, c') => (ofLittleEndian bytes, c')

def u8? (c : Cursor) : Option (UInt8 × Cursor) :=
  (c.number? 1).map fun (n, c') => (UInt8.ofNat n, c')

def u16? (c : Cursor) : Option (UInt16 × Cursor) :=
  (c.number? 2).map fun (n, c') => (UInt16.ofNat n, c')

def u32? (c : Cursor) : Option (UInt32 × Cursor) :=
  (c.number? 4).map fun (n, c') => (UInt32.ofNat n, c')

def u64? (c : Cursor) : Option (UInt64 × Cursor) :=
  (c.number? 8).map fun (n, c') => (UInt64.ofNat n, c')

def i8? (c : Cursor) : Option (Int8 × Cursor) :=
  c.u8?.map fun (n, c') => (n.toInt8, c')

def i16? (c : Cursor) : Option (Int16 × Cursor) :=
  c.u16?.map fun (n, c') => (n.toInt16, c')

def i32? (c : Cursor) : Option (Int32 × Cursor) :=
  c.u32?.map fun (n, c') => (n.toInt32, c')

/-! ## §2. Texts. -/

/-- A text of `n` bytes. -/
def text? (c : Cursor) (n : Nat) : Option (String × Cursor) :=
  (c.take? n).map fun (bytes, c') => (Utf8.decodeLossy bytes, c')

/-- A text after its 16-bit length. -/
def shortText? (c : Cursor) : Option (String × Cursor) :=
  c.u16?.bind fun (n, c') => c'.text? n.toNat

/-- A text after its 32-bit length. -/
def longText? (c : Cursor) : Option (String × Cursor) :=
  c.u32?.bind fun (n, c') => c'.text? n.toNat

/-- Passes over `n` bytes. -/
def skip? (c : Cursor) (n : Nat) : Option Cursor := (c.take? n).map Prod.snd

end Cursor

end Realm
