/-
  Realm.Blob.Field — the field kinds of a blob, what each holds, and how a value is written.

  `Value.encode` writes a value, `Field.read` reads the next one of a kind in place.  A text longer than its
  16-bit length can say is cut at 65535 bytes, which may fall inside a character.
-/
import Realm.Blob.Reader

namespace Realm

/-- A value that a blob can hold.  Floating point numbers travel as their bit pattern. -/
inductive Value
  | u8 (n : UInt8)
  | i8 (n : Int8)
  | u16 (n : UInt16)
  | i16 (n : Int16)
  | u32 (n : UInt32)
  | i32 (n : Int32)
  | u64 (n : UInt64)
  | f32 (bits : UInt32)
  | shortText (s : String)
  | longText (s : String)
  | raw (bytes : List UInt8)
deriving Repr, DecidableEq

/-- What a reader asks for next. -/
inductive Field
  | u8 | i8 | u16 | i16 | u32 | i32 | u64 | f32
  | shortText
  | longText
  | text (length : Nat)
  | raw (length : Nat)
  | skip (length : Nat)
deriving Repr, DecidableEq

/-! ## §1. Writing. -/

/-- The longest text, in bytes, that a 16-bit length can announce. -/
def shortTextLimit : Nat := 0xFFFF

/-- A text after its 16-bit length, cut to what the length can say. -/
def encodeShortText (s : String) : List UInt8 :=
  let kept := (Utf8.encode s).take shortTextLimit
  littleEndian 2 kept.length ++ kept

/-- A text after its 32-bit length. -/
def encodeLongText (s : String) : List UInt8 :=
  let bytes := Utf8.encode s
  littleEndian 4 bytes.length ++ bytes

/-- The bytes of a value. -/
def Value.encode : Value → List UInt8
  | .u8 n => littleEndian 1 n.toNat
  | .i8 n => littleEndian 1 n.toUInt8.toNat
  | .u16 n => littleEndian 2 n.toNat
  | .i16 n => littleEndian 2 n.toUInt16.toNat
  | .u32 n => littleEndian 4 n.toNat
  | .i32 n => littleEndian 4 n.toUInt32.toNat
  | .u64 n => littleEndian 8 n.toNat
  | .f32 bits => littleEndian 4 bits.toNat
  | .shortText s => encodeShortText s
  | .longText s => encodeLongText s
  | .raw bytes => bytes

/-! ## §2. Reading. -/

/-- What one read answers: a value, or the mere fact that bytes were passed over. -/
inductive Reading
  | value (v : Value)
  | text (s : String)
  | skipped
deriving Repr, DecidableEq

/-- The next field of a kind and the cursor behind it, when the blob still holds all of it. -/
def Field.read? : Field → Cursor → Option (Reading × Cursor)
  | .u8, c => c.u8?.map fun (n, c') => (.value (.u8 n), c')
  | .i8, c => c.i8?.map fun (n, c') => (.value (.i8 n), c')
  | .u16, c => c.u16?.map fun (n, c') => (.value (.u16 n), c')
  | .i16, c => c.i16?.map fun (n, c') => (.value (.i16 n), c')
  | .u32, c => c.u32?.map fun (n, c') => (.value (.u32 n), c')
  | .i32, c => c.i32?.map fun (n, c') => (.value (.i32 n), c')
  | .u64, c => c.u64?.map fun (n, c') => (.value (.u64 n), c')
  | .f32, c => c.u32?.map fun (n, c') => (.value (.f32 n), c')
  | .shortText, c => c.shortText?.map fun (s, c') => (.value (.shortText s), c')
  | .longText, c => c.longText?.map fun (s, c') => (.value (.longText s), c')
  | .text n, c => (c.text? n).map fun (s, c') => (.text s, c')
  | .raw n, c => (c.take? n).map fun (bytes, c') => (.value (.raw bytes), c')
  | .skip n, c => (c.skip? n).map fun c' => (.skipped, c')

/-- How the next field of a kind is read in place. -/
def Field.reader : Field → Reader Reading
  | .u8 => (fun n => .value (.u8 n)) <$> Reader.u8
  | .i8 => (fun n => .value (.i8 n)) <$> Reader.i8
  | .u16 => (fun n => .value (.u16 n)) <$> Reader.u16
  | .i16 => (fun n => .value (.i16 n)) <$> Reader.i16
  | .u32 => (fun n => .value (.u32 n)) <$> Reader.u32
  | .i32 => (fun n => .value (.i32 n)) <$> Reader.i32
  | .u64 => (fun n => .value (.u64 n)) <$> Reader.u64
  | .f32 => (fun n => .value (.f32 n)) <$> Reader.u32
  | .shortText => (fun s => .value (.shortText s)) <$> Reader.shortText
  | .longText => (fun s => .value (.longText s)) <$> Reader.longText
  | .text n => .text <$> Reader.text n
  | .raw n => (fun bytes => .value (.raw bytes)) <$> Reader.raw n
  | .skip n => (fun _ => .skipped) <$> Reader.skip n

/-- One read of a session: the answer, and the cursor where the read leaves it. -/
def Field.read (f : Field) (c : Cursor) : Option Reading × Cursor := f.reader.perform c

/-- The reads of a session, in order, each with the cursor it leaves. -/
def readAll : List Field → Cursor → List (Option Reading × Cursor)
  | [], _ => []
  | f :: fs, c =>
    let step := f.read c
    step :: readAll fs step.2

end Realm
