/-
  Realm.Text.Utf8 — text from bytes that may not be well formed.

  Decoding is a state machine over bytes.  Every maximal ill-formed part (the longest run that begins
  a sequence and then breaks off) becomes one replacement character; the byte that broke the sequence
  is looked at again as the beginning of the next one.
-/

namespace Realm.Utf8

/-- Stands for a part of the input that is not well-formed text. -/
def replacement : Char := '\uFFFD'

/-! ## §1. The state machine. -/

/-- What a decoder is waiting for inside a sequence: how many bytes are still to come, the interval
    the next one must lie in, and the code point bits read so far. -/
structure Pending where
  missing : Nat
  lowest : UInt8
  highest : UInt8
  bits : Nat
deriving Repr, DecidableEq

/-- The plain interval of continuation bytes. -/
def Pending.plain (missing bits : Nat) : Pending := ⟨missing, 0x80, 0xBF, bits⟩

/-- What a byte at the beginning of a sequence does. -/
inductive Lead
  | whole (c : Char)
  | opens (p : Pending)
  | invalid
deriving Repr, DecidableEq

/-- **The lead table.**  The narrowed intervals after `E0`, `ED`, `F0` and `F4` keep out overlong
    forms, surrogates and code points past `10FFFF`. -/
def lead (b : UInt8) : Lead :=
  if b < 0x80 then .whole (Char.ofNat b.toNat)
  else if b < 0xC2 then .invalid
  else if b < 0xE0 then .opens (.plain 1 (b.toNat - 0xC0))
  else if b == 0xE0 then .opens ⟨2, 0xA0, 0xBF, 0⟩
  else if b == 0xED then .opens ⟨2, 0x80, 0x9F, 0xD⟩
  else if b < 0xF0 then .opens (.plain 2 (b.toNat - 0xE0))
  else if b == 0xF0 then .opens ⟨3, 0x90, 0xBF, 0⟩
  else if b < 0xF4 then .opens (.plain 3 (b.toNat - 0xF0))
  else if b == 0xF4 then .opens ⟨3, 0x80, 0x8F, 4⟩
  else .invalid

/-- A decoder: the text so far and the sequence it is inside of, if any. -/
structure Decoder where
  text : String := ""
  pending : Option Pending := none
deriving Repr, DecidableEq

/-- Looks at a byte as the beginning of a sequence. -/
def Decoder.start (text : String) (b : UInt8) : Decoder :=
  match lead b with
  | .whole c => ⟨text.push c, none⟩
  | .opens p => ⟨text, some p⟩
  | .invalid => ⟨text.push replacement, none⟩

/-- One byte. -/
def Decoder.feed (d : Decoder) (b : UInt8) : Decoder :=
  match d.pending with
  | none => .start d.text b
  | some p =>
    if p.lowest ≤ b ∧ b ≤ p.highest then
      let bits := p.bits * 64 + (b.toNat - 0x80)
      if p.missing ≤ 1 then ⟨d.text.push (Char.ofNat bits), none⟩
      else ⟨d.text, some (.plain (p.missing - 1) bits)⟩
    else .start (d.text.push replacement) b

/-- The text once the input has ended; a sequence left open is ill formed. -/
def Decoder.finish (d : Decoder) : String :=
  match d.pending with
  | none => d.text
  | some _ => d.text.push replacement

/-! ## §2. Decoding and encoding. -/

/-- The text of a byte list, with one replacement character per maximal ill-formed part. -/
def decodeLossy (bytes : List UInt8) : String :=
  (bytes.foldl Decoder.feed {}).finish

/-- The bytes of a text. -/
def encode (text : String) : List UInt8 := text.toUTF8.data.toList

/-- The text of a byte list that is well formed throughout. -/
def decode? (bytes : List UInt8) : Option String :=
  String.fromUTF8? ⟨bytes.toArray⟩

end Realm.Utf8
