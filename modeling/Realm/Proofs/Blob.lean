/-
  Realm.Proofs.Blob — what is written into a blob is read back from it.

  A read says something of the next so many bytes, or takes none of them.  What is written is read with
  bytes behind it: reading takes exactly the value's own bytes and stands in front of the rest.

  Main statements:
  * `take?_eq`, `shortText?_eq` — a read takes the next bytes when there are enough of them;
  * `number?_littleEndian` — a number that fits its width is read back;
  * `shortText?_encodeShortText` — of a text, what fits its length is read back;
  * `read_eq` — a read in place puts the cursor back whenever it fails.
-/
import Realm.Blob.Field

namespace Realm

namespace Cursor

/-! ## §1. Reads of so many bytes. -/

section

variable (c : Cursor)

/-- A place `n` bytes further on. -/
def advance (n : Nat) : Cursor := ⟨c.position + n, c.rest.drop n⟩

/-- Bytes are taken when there are that many. -/
theorem take?_eq (n : Nat) :
    c.take? n = if n ≤ c.rest.length then some (c.rest.take n, c.advance n) else none := by
  have henough : (c.rest.take n).length = n ↔ n ≤ c.rest.length := by
    rw [List.length_take]
    omega
  simp only [take?, henough, advance]

/-- What the next `n` bytes say, when there are that many. -/
def said? {α : Type} (n : Nat) (say : List UInt8 → α) : Option (α × Cursor) :=
  (c.take? n).map fun e => (say e.1, e.2)

theorem said?_eq {α : Type} (n : Nat) (say : List UInt8 → α) : c.said? n say
    = if n ≤ c.rest.length then some (say (c.rest.take n), c.advance n) else none := by
  rw [said?, take?_eq]
  split <;> rfl

/-- What is made of what bytes say is what they say too. -/
theorem map_said? {α β : Type} (n : Nat) (say : List UInt8 → α) (f : α → β) :
    (c.said? n say).map (fun e => (f e.1, e.2)) = c.said? n fun bytes => f (say bytes) := by
  rw [said?, said?, Option.map_map]
  rfl

theorem u8?_eq : c.u8? = c.said? 1 fun bytes => UInt8.ofNat (ofLittleEndian bytes) :=
  c.map_said? 1 ofLittleEndian UInt8.ofNat

theorem u16?_eq : c.u16? = c.said? 2 fun bytes => UInt16.ofNat (ofLittleEndian bytes) :=
  c.map_said? 2 ofLittleEndian UInt16.ofNat

theorem u32?_eq : c.u32? = c.said? 4 fun bytes => UInt32.ofNat (ofLittleEndian bytes) :=
  c.map_said? 4 ofLittleEndian UInt32.ofNat

theorem i32?_eq : c.i32? = c.said? 4 fun bytes => (UInt32.ofNat (ofLittleEndian bytes)).toInt32 := by
  rw [i32?, u32?_eq]
  exact c.map_said? 4 _ UInt32.toInt32

theorem u64?_eq : c.u64? = c.said? 8 fun bytes => UInt64.ofNat (ofLittleEndian bytes) :=
  c.map_said? 8 ofLittleEndian UInt64.ofNat

theorem i8?_eq : c.i8? = c.said? 1 fun bytes => (UInt8.ofNat (ofLittleEndian bytes)).toInt8 := by
  rw [i8?, u8?_eq]
  exact c.map_said? 1 _ UInt8.toInt8

theorem i16?_eq : c.i16? = c.said? 2 fun bytes => (UInt16.ofNat (ofLittleEndian bytes)).toInt16 := by
  rw [i16?, u16?_eq]
  exact c.map_said? 2 _ UInt16.toInt16

/-- **A text and its length** are taken together, or neither is.  The length is a word that holds every
    number of its width. -/
theorem textBehind_eq {β : Type} (width : Nat) (word : Nat → β) (toNat : β → Nat)
    (hword : ∀ n < capacity width, toNat (word n) = n) :
    ((c.said? width fun bytes => word (ofLittleEndian bytes)).bind fun e => e.2.text? (toNat e.1))
      = c.said? (width + ofLittleEndian (c.rest.take width))
          fun bytes => Utf8.decodeLossy (bytes.drop width) := by
  rw [said?_eq, said?_eq]
  by_cases hlength : width ≤ c.rest.length
  · rw [if_pos hlength, Option.bind_some]
    have hfits : ofLittleEndian (c.rest.take width) < capacity width :=
      ofLittleEndian_lt_capacity (List.length_take_of_le hlength)
    generalize ofLittleEndian (c.rest.take width) = n at hfits ⊢
    have hbody : n ≤ (c.advance width).rest.length ↔ width + n ≤ c.rest.length := by
      rw [advance, List.length_drop]
      omega
    show (c.advance width).text? (toNat (word n)) = _
    rw [hword n hfits, text?, take?_eq]
    simp only [hbody]
    split
    · simp [advance, List.drop_take, Nat.add_assoc]
    · rfl
  · rw [if_neg hlength, if_neg (by omega)]
    rfl

theorem shortText?_eq : c.shortText?
    = c.said? (2 + ofLittleEndian (c.rest.take 2)) fun bytes => Utf8.decodeLossy (bytes.drop 2) := by
  rw [shortText?, u16?_eq]
  exact c.textBehind_eq 2 UInt16.ofNat UInt16.toNat fun n hn => UInt16.toNat_ofNat_of_lt' hn

theorem longText?_eq : c.longText?
    = c.said? (4 + ofLittleEndian (c.rest.take 4)) fun bytes => Utf8.decodeLossy (bytes.drop 4) := by
  rw [longText?, u32?_eq]
  exact c.textBehind_eq 4 UInt32.ofNat UInt32.toNat fun n hn => UInt32.toNat_ofNat_of_lt' hn

theorem skip?_eq (n : Nat) {α : Type} (a : α) :
    (c.skip? n).map (fun c' => (a, c')) = c.said? n fun _ => a := by
  rw [skip?, said?, Option.map_map]
  rfl

end

variable (position : Nat) (rest : List UInt8)

/-! ## §2. Stretches and numbers. -/

/-- A stretch of bytes is taken as it stands. -/
theorem take?_append (bytes : List UInt8) :
    (Cursor.mk position (bytes ++ rest)).take? bytes.length
      = some (bytes, ⟨position + bytes.length, rest⟩) := by
  simp only [take?, List.take_left, List.drop_left, if_true]

/-- **A number that fits its width is read back.** -/
theorem number?_littleEndian {width n : Nat} (h : n < capacity width) :
    (Cursor.mk position (littleEndian width n ++ rest)).number? width
      = some (n, ⟨position + width, rest⟩) := by
  have htake := take?_append position rest (littleEndian width n)
  rw [length_littleEndian] at htake
  rw [number?, htake]
  show some (ofLittleEndian (littleEndian width n), _) = _
  rw [ofLittleEndian_littleEndian, Nat.mod_eq_of_lt h]

theorem u8?_littleEndian (n : UInt8) :
    (Cursor.mk position (littleEndian 1 n.toNat ++ rest)).u8? = some (n, ⟨position + 1, rest⟩) := by
  rw [u8?, number?_littleEndian position rest n.toNat_lt]
  show some (UInt8.ofNat n.toNat, _) = _
  rw [UInt8.ofNat_toNat]

theorem u16?_littleEndian (n : UInt16) :
    (Cursor.mk position (littleEndian 2 n.toNat ++ rest)).u16? = some (n, ⟨position + 2, rest⟩) := by
  rw [u16?, number?_littleEndian position rest n.toNat_lt]
  show some (UInt16.ofNat n.toNat, _) = _
  rw [UInt16.ofNat_toNat]

theorem u32?_littleEndian (n : UInt32) :
    (Cursor.mk position (littleEndian 4 n.toNat ++ rest)).u32? = some (n, ⟨position + 4, rest⟩) := by
  rw [u32?, number?_littleEndian position rest n.toNat_lt]
  show some (UInt32.ofNat n.toNat, _) = _
  rw [UInt32.ofNat_toNat]

theorem u64?_littleEndian (n : UInt64) :
    (Cursor.mk position (littleEndian 8 n.toNat ++ rest)).u64? = some (n, ⟨position + 8, rest⟩) := by
  rw [u64?, number?_littleEndian position rest n.toNat_lt]
  show some (UInt64.ofNat n.toNat, _) = _
  rw [UInt64.ofNat_toNat]

/-- A byte is read as it stands. -/
theorem u8?_cons (n : UInt8) :
    (Cursor.mk position (n :: rest)).u8? = some (n, ⟨position + 1, rest⟩) := by
  have hbyte : littleEndian 1 n.toNat = [n] := by
    rw [littleEndian, littleEndian, UInt8.ofNat_toNat]
  have h := u8?_littleEndian position rest n
  rw [hbyte] at h
  exact h

theorem i8?_littleEndian (n : Int8) :
    (Cursor.mk position (littleEndian 1 n.toUInt8.toNat ++ rest)).i8?
      = some (n, ⟨position + 1, rest⟩) := by
  rw [i8?, u8?_littleEndian]
  rfl

theorem i16?_littleEndian (n : Int16) :
    (Cursor.mk position (littleEndian 2 n.toUInt16.toNat ++ rest)).i16?
      = some (n, ⟨position + 2, rest⟩) := by
  rw [i16?, u16?_littleEndian]
  rfl

theorem i32?_littleEndian (n : Int32) :
    (Cursor.mk position (littleEndian 4 n.toUInt32.toNat ++ rest)).i32?
      = some (n, ⟨position + 4, rest⟩) := by
  rw [i32?, u32?_littleEndian]
  rfl

/-! ## §3. Texts. -/

/-- What a text comes to behind a 16-bit length: it is cut, and a character that the cut goes through
    is lost. -/
def shortened (s : String) : String := Utf8.decodeLossy ((Utf8.encode s).take shortTextLimit)

/-- **Of a text, what fits its length is read back.** -/
theorem shortText?_encodeShortText (s : String) :
    (Cursor.mk position (encodeShortText s ++ rest)).shortText?
      = some (shortened s, ⟨position + (encodeShortText s).length, rest⟩) := by
  have hfits : ((Utf8.encode s).take shortTextLimit).length < UInt16.size := by
    rw [List.length_take]
    have hlimit : shortTextLimit < UInt16.size := by decide
    omega
  generalize hkept : (Utf8.encode s).take shortTextLimit = kept at hfits
  have hlength := u16?_littleEndian position (kept ++ rest) (UInt16.ofNat kept.length)
  rw [UInt16.toNat_ofNat_of_lt' hfits] at hlength
  simp only [shortText?, encodeShortText, shortened, hkept, List.append_assoc, hlength,
    Option.bind_some, text?]
  rw [UInt16.toNat_ofNat_of_lt' hfits, take?_append, Option.map_some, List.length_append,
    length_littleEndian, Nat.add_assoc]

end Cursor

/-! ## §4. Reads in place. -/

/-- What a read comes to that puts the cursor back to where it was when it fails. -/
def Cursor.held {α : Type} (c : Cursor) : Option (α × Cursor) → Option α × Cursor
  | some (a, c') => (some a, c')
  | none => (none, c)

namespace Reader

variable {α β : Type} {c : Cursor}

/-- What is made of an answer moves no cursor. -/
theorem perform_map_of {r : Reader α} {read : Option (α × Cursor)} (h : r.perform c = c.held read)
    (f : α → β) : (f <$> r).perform c = c.held (read.map fun e => (f e.1, e.2)) := by
  rw [perform_map, h]
  cases read <;> rfl

variable (c)

theorem perform_raw (n : Nat) : (raw n).perform c = c.held (c.take? n) := by
  rw [raw, perform_bind, perform_get]
  cases htake : c.take? n <;> simp [htake, Cursor.held]

theorem perform_u8 : u8.perform c = c.held c.u8? :=
  perform_map_of (perform_map_of (perform_raw c 1) ofLittleEndian) UInt8.ofNat

theorem perform_u16 : u16.perform c = c.held c.u16? :=
  perform_map_of (perform_map_of (perform_raw c 2) ofLittleEndian) UInt16.ofNat

theorem perform_u32 : u32.perform c = c.held c.u32? :=
  perform_map_of (perform_map_of (perform_raw c 4) ofLittleEndian) UInt32.ofNat

theorem perform_u64 : u64.perform c = c.held c.u64? :=
  perform_map_of (perform_map_of (perform_raw c 8) ofLittleEndian) UInt64.ofNat

theorem perform_text (n : Nat) : (text n).perform c = c.held (c.text? n) :=
  perform_map_of (perform_raw c n) Utf8.decodeLossy

theorem perform_skip (n : Nat) :
    (skip n).perform c = c.held ((c.skip? n).map fun c' => ((), c')) := by
  rw [skip, perform_map_of (perform_raw c n), Cursor.skip?, Option.map_map]
  rfl

/-- Behind its length a text is taken from where the cursor stands, and else the cursor goes back to where
    the length began. -/
theorem perform_behindLength (start : Cursor) (n : Nat) :
    (behindLength start n).perform c = start.held (c.text? n) := by
  rw [behindLength, perform_bind, perform_get, Cursor.text?]
  cases htake : c.take? n <;> simp [htake, Cursor.held]

theorem perform_shortText : shortText.perform c = c.held c.shortText? := by
  rw [shortText, perform_bind, perform_get, Cursor.shortText?]
  simp only [perform_bind, perform_u16]
  cases c.u16? with
  | none => rfl
  | some e => exact perform_behindLength e.2 c e.1.toNat

theorem perform_longText : longText.perform c = c.held c.longText? := by
  rw [longText, perform_bind, perform_get, Cursor.longText?]
  simp only [perform_bind, perform_u32]
  cases c.u32? with
  | none => rfl
  | some e => exact perform_behindLength e.2 c e.1.toNat

end Reader

/-- **A read in place** gives the next field and leaves the cursor behind it, and puts the cursor back
    whenever it fails. -/
theorem Field.read_eq (f : Field) (c : Cursor) : f.read c = c.held (f.read? c) := by
  cases f with
  | u8 => exact Reader.perform_map_of (Reader.perform_u8 c) _
  | i8 => exact Reader.perform_map_of (Reader.perform_map_of (Reader.perform_u8 c) _) _
  | u16 => exact Reader.perform_map_of (Reader.perform_u16 c) _
  | i16 => exact Reader.perform_map_of (Reader.perform_map_of (Reader.perform_u16 c) _) _
  | u32 => exact Reader.perform_map_of (Reader.perform_u32 c) _
  | i32 => exact Reader.perform_map_of (Reader.perform_map_of (Reader.perform_u32 c) _) _
  | u64 => exact Reader.perform_map_of (Reader.perform_u64 c) _
  | f32 => exact Reader.perform_map_of (Reader.perform_u32 c) _
  | shortText => exact Reader.perform_map_of (Reader.perform_shortText c) _
  | longText => exact Reader.perform_map_of (Reader.perform_longText c) _
  | text n => exact Reader.perform_map_of (Reader.perform_text c n) _
  | raw n => exact Reader.perform_map_of (Reader.perform_raw c n) _
  | skip n =>
    show ((fun _ => Reading.skipped) <$> Reader.skip n).perform c = _
    rw [Reader.perform_map_of (Reader.perform_skip c n), Option.map_map]
    rfl

end Realm
