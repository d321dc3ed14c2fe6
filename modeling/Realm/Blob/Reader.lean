/-
  Realm.Blob.Reader — reads that move a cursor in place.

  The reads of a session share one cursor.  A read that fails leaves it to the next one wherever it stands,
  so a read that has moved it before it fails has to put it back.  A text behind its length is such a read:
  it passes over the length before it can tell whether the text is all there.
-/
import Realm.Blob.Cursor

namespace Realm

/-- A read in place: it answers or fails, and the cursor stands somewhere either way. -/
abbrev Reader (α : Type) : Type := OptionT (StateM Cursor) α

namespace Reader

/-- What a read answers, and the cursor behind it. -/
def perform {α : Type} (r : Reader α) (c : Cursor) : Option α × Cursor := r.run.run c

section

variable {α β : Type} (c : Cursor)

@[simp] theorem perform_pure (a : α) : (pure a : Reader α).perform c = (some a, c) := rfl

@[simp] theorem perform_failure : (failure : Reader α).perform c = (none, c) := rfl

@[simp] theorem perform_get : (get : Reader Cursor).perform c = (some c, c) := rfl

@[simp] theorem perform_set (c' : Cursor) : (set c' : Reader PUnit).perform c = (some ⟨⟩, c') := rfl

@[simp] theorem perform_bind (r : Reader α) (next : α → Reader β) :
    (r >>= next).perform c =
      match r.perform c with
      | (some a, c') => (next a).perform c'
      | (none, c') => (none, c') := by
  unfold perform OptionT.run StateT.run
  simp only [bind, OptionT.bind, OptionT.mk, StateT.bind]
  cases r c with
  | mk answer c' => cases answer <;> rfl

@[simp] theorem perform_map (f : α → β) (r : Reader α) :
    (f <$> r).perform c = ((r.perform c).1.map f, (r.perform c).2) := by
  show (r >>= fun a => pure (f a)).perform c = _
  rw [perform_bind]
  cases r.perform c with
  | mk answer c' => cases answer <;> rfl

end

/-! ## §1. Bytes and numbers. -/

/-- The next `n` bytes, when there are that many. -/
def raw (n : Nat) : Reader (List UInt8) := do
  let c ← get
  match c.take? n with
  | some (bytes, c') =>
    set c'
    pure bytes
  | none => failure

/-- Passes over `n` bytes. -/
def skip (n : Nat) : Reader Unit := (fun _ => ()) <$> raw n

/-- A little-endian number of `width` bytes. -/
def number (width : Nat) : Reader Nat := ofLittleEndian <$> raw width

def u8 : Reader UInt8 := UInt8.ofNat <$> number 1

def u16 : Reader UInt16 := UInt16.ofNat <$> number 2

def u32 : Reader UInt32 := UInt32.ofNat <$> number 4

def u64 : Reader UInt64 := UInt64.ofNat <$> number 8

def i8 : Reader Int8 := UInt8.toInt8 <$> u8

def i16 : Reader Int16 := UInt16.toInt16 <$> u16

def i32 : Reader Int32 := UInt32.toInt32 <$> u32

/-! ## §2. Texts. -/

/-- A text of `n` bytes. -/
def text (n : Nat) : Reader String := Utf8.decodeLossy <$> raw n

/-- A text of `n` bytes behind its length, which began at `start`.  If it is not all there, the cursor goes
    back in front of the length. -/
def behindLength (start : Cursor) (n : Nat) : Reader String := do
  let c ← get
  match c.take? n with
  | some (bytes, c') =>
    set c'
    pure (Utf8.decodeLossy bytes)
  | none =>
    set start
    failure

/-- A text after its 16-bit length. -/
def shortText : Reader String := do
  let start ← get
  let n ← u16
  behindLength start n.toNat

/-- A text after its 32-bit length. -/
def longText : Reader String := do
  let start ← get
  let n ← u32
  behindLength start n.toNat

end Reader

end Realm
