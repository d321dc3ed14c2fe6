/-
  Realm.Proofs.Text.Utf8 — well-formed text survives decoding.

  The bytes of a character are followed through the decoder one by one.  Its lead byte opens a sequence
  with the high bits, each byte behind it adds six more, and the last one closes the sequence with the
  character itself; so a text comes back character by character.

  Main statement:
  * `decodeLossy_encode` — the bytes of a text decode to that text.
-/
import Realm.Text.Utf8

namespace Realm.Utf8

/-! ## §1. Lead bytes. -/

theorem lead_one {n : Nat} (h : n < 0x80) : lead (UInt8.ofNat n) = .whole (Char.ofNat n) := by
  have hsize : n < UInt8.size := by
    show n < 256
    omega
  have hsmall : UInt8.ofNat n < 0x80 := by
    rw [UInt8.lt_iff_toNat_lt, UInt8.toNat_ofNat_of_lt' hsize]
    exact h
  unfold lead
  rw [if_pos hsmall, UInt8.toNat_ofNat_of_lt' hsize]

theorem lead_two : ∀ n < 32, 2 ≤ n → lead (UInt8.ofNat (n + 0xC0)) = .opens (.plain 1 n) := by
  decide

/-- The first byte behind the lead is narrowed where a form would be overlong, or a surrogate. -/
theorem lead_three : ∀ n < 16, lead (UInt8.ofNat (n + 0xE0))
    = .opens ⟨2, if n = 0 then 0xA0 else 0x80, if n = 13 then 0x9F else 0xBF, n⟩ := by
  decide

/-- The first byte behind the lead is narrowed where a form would be overlong, or too large. -/
theorem lead_four : ∀ n < 5, lead (UInt8.ofNat (n + 0xF0))
    = .opens ⟨3, if n = 0 then 0x90 else 0x80, if n = 4 then 0x8F else 0xBF, n⟩ := by
  decide

/-! ## §2. One character. -/

namespace Decoder

variable (text : String)

theorem feed_opens {b : UInt8} {p : Pending} (h : lead b = .opens p) :
    feed ⟨text, none⟩ b = ⟨text, some p⟩ := by
  show start text b = _
  rw [start, h]

/-- A byte that lies in the interval of an open sequence adds six bits to it. -/
theorem feed_inside {missing bits m : Nat} {lowest highest : UInt8} (hm : m < 64)
    (hlow : lowest.toNat ≤ m + 0x80) (hhigh : m + 0x80 ≤ highest.toNat) :
    feed ⟨text, some ⟨missing, lowest, highest, bits⟩⟩ (UInt8.ofNat (m + 0x80))
      = if missing ≤ 1 then ⟨text.push (Char.ofNat (bits * 64 + m)), none⟩
        else ⟨text, some (.plain (missing - 1) (bits * 64 + m))⟩ := by
  have hsize : m + 0x80 < UInt8.size := by
    show m + 0x80 < 256
    omega
  have hin : lowest ≤ UInt8.ofNat (m + 0x80) ∧ UInt8.ofNat (m + 0x80) ≤ highest := by
    rw [UInt8.le_iff_toNat_le, UInt8.le_iff_toNat_le, UInt8.toNat_ofNat_of_lt' hsize]
    exact ⟨hlow, hhigh⟩
  simp only [feed, if_pos hin, UInt8.toNat_ofNat_of_lt' hsize, Nat.add_sub_cancel]

/-- **A byte inside a sequence** that is not its last one leaves it open in the plain way. -/
theorem feed_more {missing bits m : Nat} {lowest highest : UInt8} (hm : m < 64)
    (hlow : lowest.toNat ≤ m + 0x80) (hhigh : m + 0x80 ≤ highest.toNat) :
    feed ⟨text, some ⟨missing + 2, lowest, highest, bits⟩⟩ (UInt8.ofNat (m + 0x80))
      = ⟨text, some (.plain (missing + 1) (bits * 64 + m))⟩ := by
  rw [feed_inside text hm hlow hhigh, if_neg (by omega)]
  rfl

/-- **The last byte of a sequence** closes it with a character. -/
theorem feed_last {bits m : Nat} (hm : m < 64) :
    feed ⟨text, some (.plain 1 bits)⟩ (UInt8.ofNat (m + 0x80))
      = ⟨text.push (Char.ofNat (bits * 64 + m)), none⟩ := by
  have hlow : (0x80 : UInt8).toNat ≤ m + 0x80 := by
    show 0x80 ≤ m + 0x80
    omega
  have hhigh : m + 0x80 ≤ (0xBF : UInt8).toNat := by
    show m + 0x80 ≤ 0xBF
    omega
  rw [Pending.plain, feed_inside text hm hlow hhigh, if_pos (Nat.le_refl 1)]

/-- **One character.**  Its bytes put it behind the text, and leave no sequence open. -/
theorem foldl_feed_char (ch : Char) :
    (String.utf8EncodeChar ch).foldl feed ⟨text, none⟩ = ⟨text.push ch, none⟩ := by
  have hvalid : ch.val.toNat < 0xD800 ∨ 0xDFFF < ch.val.toNat ∧ ch.val.toNat < 0x110000 := ch.valid
  have hback : Char.ofNat ch.val.toNat = ch := Char.ofNat_toNat ch
  unfold String.utf8EncodeChar
  generalize ch.val.toNat = v at hvalid hback
  -- one case per length; in each the bits of the bytes make up the code point again
  by_cases hone : v ≤ 0x7F
  · show List.foldl feed _ (if v ≤ 0x7F then _ else _) = _
    rw [if_pos hone, List.foldl_cons, List.foldl_nil]
    show start text _ = _
    rw [start, lead_one (by omega), hback]
  by_cases htwo : v ≤ 0x7FF
  · have hbits : v / 64 % 32 * 64 + v % 64 = v := by omega
    show List.foldl feed _ (if v ≤ 0x7F then _ else if v ≤ 0x7FF then _ else _) = _
    rw [if_neg hone, if_pos htwo, List.foldl_cons, List.foldl_cons, List.foldl_nil,
      feed_opens text (lead_two _ (by omega) (by omega)), feed_last text (by omega), hbits, hback]
  by_cases hthree : v ≤ 0xFFFF
  · have hbits : (v / 4096 % 16 * 64 + v / 64 % 64) * 64 + v % 64 = v := by omega
    show List.foldl feed _ (if v ≤ 0x7F then _ else if v ≤ 0x7FF then _
      else if v ≤ 0xFFFF then _ else _) = _
    rw [if_neg hone, if_neg htwo, if_pos hthree, List.foldl_cons, List.foldl_cons, List.foldl_cons,
      List.foldl_nil, feed_opens text (lead_three _ (by omega)), feed_more text (by omega) ?_ ?_,
      feed_last text (by omega), hbits, hback]
    · show (if v / 4096 % 16 = 0 then (0xA0 : UInt8) else 0x80).toNat ≤ _
      split
      · show 0xA0 ≤ _
        omega
      · show 0x80 ≤ _
        omega
    · show _ ≤ (if v / 4096 % 16 = 13 then (0x9F : UInt8) else 0xBF).toNat
      split
      · show _ ≤ 0x9F
        omega
      · show _ ≤ 0xBF
        omega
  · have hbits : ((v / 262144 % 8 * 64 + v / 4096 % 64) * 64 + v / 64 % 64) * 64 + v % 64 = v := by
      omega
    show List.foldl feed _ (if v ≤ 0x7F then _ else if v ≤ 0x7FF then _
      else if v ≤ 0xFFFF then _ else _) = _
    rw [if_neg hone, if_neg htwo, if_neg hthree, List.foldl_cons, List.foldl_cons, List.foldl_cons,
      List.foldl_cons, List.foldl_nil, feed_opens text (lead_four _ (by omega)),
      feed_more text (by omega) ?_ ?_, Pending.plain, feed_more text (by omega) ?_ ?_,
      feed_last text (by omega), hbits, hback]
    · show 0x80 ≤ _
      omega
    · show _ ≤ 0xBF
      omega
    · show (if v / 262144 % 8 = 0 then (0x90 : UInt8) else 0x80).toNat ≤ _
      split
      · show 0x90 ≤ _
        omega
      · show 0x80 ≤ _
        omega
    · show _ ≤ (if v / 262144 % 8 = 4 then (0x8F : UInt8) else 0xBF).toNat
      split
      · show _ ≤ 0x8F
        omega
      · show _ ≤ 0xBF
        omega

/-- The characters of a list, one behind the other. -/
theorem foldl_feed_chars (chars : List Char) :
    (chars.flatMap String.utf8EncodeChar).foldl feed ⟨text, none⟩
      = ⟨text ++ String.ofList chars, none⟩ := by
  induction chars generalizing text with
  | nil => simp
  | cons ch chars ih =>
    rw [List.flatMap_cons, List.foldl_append, foldl_feed_char, ih]
    simp [String.ofList_cons, ← String.append_singleton, String.append_assoc]

end Decoder

/-! ## §3. Texts. -/

/-- The bytes of a text are those of its characters, one behind the other. -/
theorem encode_ofList (chars : List Char) :
    encode (String.ofList chars) = chars.flatMap String.utf8EncodeChar := by
  rw [encode, String.toUTF8_eq_toByteArray, String.toByteArray_ofList, List.utf8Encode,
    List.toList_data_toByteArray]

/-- **The bytes of a text decode to that text.** -/
theorem decodeLossy_encode (s : String) : decodeLossy (encode s) = s := by
  obtain ⟨chars, rfl⟩ := s.exists_eq_ofList
  rw [decodeLossy, encode_ofList, Decoder.foldl_feed_chars]
  show "" ++ String.ofList chars = _
  rw [String.empty_append]

end Realm.Utf8
