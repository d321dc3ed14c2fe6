/-
  Realm.Proofs.Text.Clipping — the bytes of a text, cut short, and decoded.

  A cut can go through a character.  The bytes in front of it then open a sequence that nothing closes,
  and one replacement character stands for all of them.  A replacement character is three bytes long,
  so a clipped text can be longer than the cut allows; it is clipped again at the same place, and to the
  same text.

  Main statements:
  * `decodeLossy_take_encode` — what the first bytes of a text decode to;
  * `clip_clip` — clipping twice is clipping once.
-/
import Realm.Proofs.Text.Utf8

namespace Realm.Utf8

/-! ## §1. Inside a character. -/

namespace Decoder

/-- **How far a decoder has come:** two for each character, and one for a sequence that is open. -/
def weight (d : Decoder) : Nat := 2 * d.text.length + if d.pending.isSome then 1 else 0

theorem weight_start (text : String) (b : UInt8) : 2 * text.length < (start text b).weight := by
  unfold start
  split
  · show _ < 2 * (text.push _).length + 0
    rw [String.length_push]
    omega
  · show _ < 2 * text.length + 1
    omega
  · show _ < 2 * (text.push replacement).length + 0
    rw [String.length_push]
    omega

/-- No byte takes a decoder back. -/
theorem weight_le_feed (d : Decoder) (b : UInt8) : d.weight ≤ (d.feed b).weight := by
  obtain ⟨text, pending⟩ := d
  cases pending with
  | none => exact Nat.le_of_lt (weight_start text b)
  | some p =>
    show 2 * text.length + 1 ≤ _
    unfold feed
    dsimp only
    split
    · split
      · show _ ≤ 2 * (text.push _).length + 0
        rw [String.length_push]
        omega
      · show _ ≤ 2 * text.length + 1
        omega
    · have hstart := weight_start (text.push replacement) b
      rw [String.length_push] at hstart
      omega

theorem weight_le_foldl (bytes : List UInt8) (d : Decoder) :
    d.weight ≤ (bytes.foldl feed d).weight := by
  induction bytes generalizing d with
  | nil => exact Nat.le_refl _
  | cons b bytes ih => exact Nat.le_trans (weight_le_feed d b) (ih (d.feed b))

/-- Outside of a sequence every byte counts. -/
theorem weight_lt_foldl {bytes : List UInt8} (hbytes : bytes ≠ []) (text : String) :
    2 * text.length < (bytes.foldl feed ⟨text, none⟩).weight := by
  cases bytes with
  | nil => exact absurd rfl hbytes
  | cons b bytes => exact Nat.lt_of_lt_of_le (weight_start text b) (weight_le_foldl bytes _)

theorem text_start (text : String) (b : UInt8) : ∃ more, (start text b).text = text ++ more := by
  unfold start
  split
  · exact ⟨_, String.append_singleton.symm⟩
  · exact ⟨"", String.append_empty.symm⟩
  · exact ⟨_, String.append_singleton.symm⟩

/-- What was decoded stays. -/
theorem text_feed (d : Decoder) (b : UInt8) : ∃ more, (d.feed b).text = d.text ++ more := by
  unfold feed
  split
  · exact text_start d.text b
  · split
    · dsimp only
      split
      · exact ⟨_, String.append_singleton.symm⟩
      · exact ⟨"", String.append_empty.symm⟩
    · obtain ⟨more, hmore⟩ := text_start (d.text.push replacement) b
      exact ⟨String.singleton replacement ++ more, by
        rw [hmore, ← String.append_singleton, String.append_assoc]⟩

theorem text_foldl (bytes : List UInt8) (d : Decoder) :
    ∃ more, (bytes.foldl feed d).text = d.text ++ more := by
  induction bytes generalizing d with
  | nil => exact ⟨"", String.append_empty.symm⟩
  | cons b bytes ih =>
    obtain ⟨more, hmore⟩ := text_feed d b
    obtain ⟨rest, hrest⟩ := ih (d.feed b)
    exact ⟨more ++ rest, by rw [List.foldl_cons, hrest, hmore, String.append_assoc]⟩

/-- **Inside a character** a sequence is open, and no character was written yet. -/
theorem foldl_feed_inside {ch : Char} {front back : List UInt8} (text : String)
    (hbytes : String.utf8EncodeChar ch = front ++ back) (hfront : front ≠ []) (hback : back ≠ []) :
    ∃ p, front.foldl feed ⟨text, none⟩ = ⟨text, some p⟩ := by
  have hwhole := foldl_feed_char text ch
  rw [hbytes, List.foldl_append] at hwhole
  have hbegun := weight_lt_foldl hfront text
  obtain ⟨more, hmore⟩ := text_foldl front ⟨text, none⟩
  generalize front.foldl feed ⟨text, none⟩ = d at hwhole hbegun hmore
  obtain ⟨written, pending⟩ := d
  obtain rfl : written = text ++ more := hmore
  have hweight : (Decoder.mk (text.push ch) none).weight = 2 * text.length + 2 := by
    show 2 * (text.push ch).length + 0 = _
    rw [String.length_push]
    omega
  rw [← hwhole] at hweight
  cases pending with
  | none =>
    -- outside of a sequence the bytes in front would be a character already, and those behind more
    have hmoved := weight_lt_foldl hback (text ++ more)
    have hbegun' : 2 * text.length < 2 * (text ++ more).length + 0 := hbegun
    omega
  | some p =>
    have hmoved := weight_le_foldl back ⟨text ++ more, some p⟩
    have hopen : (Decoder.mk (text ++ more) (some p)).weight = 2 * (text ++ more).length + 1 := rfl
    rw [String.length_append] at hopen
    have hnone : more = "" := String.length_eq_zero_iff.1 (by omega)
    exact ⟨p, by rw [hnone, String.append_empty]⟩

end Decoder

/-! ## §2. Clipped texts. -/

/-- **Characters clipped at so many bytes:** those that fit, and a replacement for one that begins in
    front of the cut and does not end there. -/
def clip : Nat → List Char → List Char
  | _, [] => []
  | n, ch :: rest =>
    if ch.utf8Size ≤ n then ch :: clip (n - ch.utf8Size) rest
    else if n = 0 then []
    else [replacement]

theorem foldl_feed_take (n : Nat) (chars : List Char) (text : String) :
    (((chars.flatMap String.utf8EncodeChar).take n).foldl Decoder.feed ⟨text, none⟩).finish
      = text ++ String.ofList (clip n chars) := by
  induction chars generalizing n text with
  | nil =>
    rw [List.flatMap_nil, List.take_nil]
    exact String.append_empty.symm
  | cons ch rest ih =>
    have hlength := String.length_utf8EncodeChar ch
    rw [List.flatMap_cons, List.take_append, hlength, clip]
    by_cases hfits : ch.utf8Size ≤ n
    · rw [if_pos hfits, List.take_of_length_le (by omega), List.foldl_append,
        Decoder.foldl_feed_char, ih, String.ofList_cons, ← String.append_singleton,
        String.append_assoc]
    · rw [if_neg hfits, Nat.sub_eq_zero_of_le (by omega), List.take_zero, List.append_nil]
      by_cases hcut : n = 0
      · rw [if_pos hcut, hcut, List.take_zero]
        exact String.append_empty.symm
      · have hback : (String.utf8EncodeChar ch).drop n ≠ [] := by
          rw [ne_eq, List.drop_eq_nil_iff]
          omega
        have hfront : (String.utf8EncodeChar ch).take n ≠ [] := by
          rw [ne_eq, List.take_eq_nil_iff]
          rintro (hzero | hnil)
          · exact hcut hzero
          · rw [hnil, List.drop_nil] at hback
            exact hback rfl
        obtain ⟨p, hopen⟩ := Decoder.foldl_feed_inside text
          (List.take_append_drop n (String.utf8EncodeChar ch)).symm hfront hback
        rw [if_neg hcut, hopen]
        exact String.append_singleton.symm

/-- **The first bytes of a text** decode to the text clipped there. -/
theorem decodeLossy_take_encode (n : Nat) (s : String) :
    decodeLossy ((encode s).take n) = String.ofList (clip n s.toList) := by
  obtain ⟨chars, rfl⟩ := s.exists_eq_ofList
  rw [encode_ofList, String.toList_ofList, decodeLossy]
  show (_ : Decoder).finish = _
  rw [foldl_feed_take, String.empty_append]

/-- **Clipping twice is clipping once,** although a replacement may stick out over the cut. -/
theorem clip_clip (n : Nat) (chars : List Char) : clip n (clip n chars) = clip n chars := by
  induction chars generalizing n with
  | nil => rfl
  | cons ch rest ih =>
    rw [clip]
    by_cases hfits : ch.utf8Size ≤ n
    · rw [if_pos hfits, clip, if_pos hfits, ih]
    · rw [if_neg hfits]
      by_cases hcut : n = 0
      · rw [if_pos hcut]
        rfl
      · -- whether the replacement fits or not, it comes back as itself
        rw [if_neg hcut, clip]
        split <;> rfl

end Realm.Utf8
