/-
  Realm.Proofs.Blob.RoundTrip — values written one behind the other are read back in that order.

  A reader that asks for the kinds of the values that were written gets each of them, and nothing is left
  at the end.  Every value comes back as it was, but for a text that is too long for its 16-bit length:
  that one is cut, and where the cut goes through a character, a replacement character stands in for it.

  Main statements:
  * `ofList_clip` — what is left of a text that is cut, without a decoder;
  * `read?_encode` — one value, whatever bytes are behind it;
  * `readAll_flatMap_encode` — any sequence of values.
-/
import Mathlib.Data.Nat.Find
import Realm.Proofs.Blob
import Realm.Proofs.Text.Clipping

namespace Realm

namespace Utf8

/-! ## §1. Texts that are cut. -/

/-- The text of the first `k` characters. -/
def firstChars (s : String) (k : Nat) : String := String.ofList (s.toList.take k)

/-- **The longest beginning of a text,** in whole characters, that comes to at most `n` bytes. -/
def longestWithin (n : Nat) (s : String) : String :=
  firstChars s (Nat.findGreatest (fun k => (encode (firstChars s k)).length ≤ n) s.length)

/-- Whether some characters of a text, from its beginning, come to exactly `n` bytes: a cut there goes
    through none of them. -/
def IsBoundary (n : Nat) (s : String) : Prop := ∃ k ≤ s.length, (encode (firstChars s k)).length = n

instance (n : Nat) (s : String) : Decidable (IsBoundary n s) :=
  decidable_of_iff (∃ k < s.length + 1, (encode (firstChars s k)).length = n) <| by
    simp only [IsBoundary, Nat.lt_succ_iff]

/-- **A text cut at `n` bytes:** itself if it is no longer; else its longest beginning within them, and a
    replacement character for one that the cut goes through. -/
def cutAt (n : Nat) (s : String) : String :=
  if (encode s).length ≤ n then s
  else if IsBoundary n s then longestWithin n s
  else (longestWithin n s).push replacement

/-- How many bytes some characters come to. -/
def byteCount (chars : List Char) : Nat := (chars.flatMap String.utf8EncodeChar).length

theorem byteCount_append (front back : List Char) :
    byteCount (front ++ back) = byteCount front + byteCount back := by
  simp [byteCount]

theorem byteCount_cons (ch : Char) (rest : List Char) :
    byteCount (ch :: rest) = ch.utf8Size + byteCount rest := by
  simp [byteCount, String.length_utf8EncodeChar]

theorem length_encode_ofList (chars : List Char) :
    (encode (String.ofList chars)).length = byteCount chars := by
  rw [encode_ofList, byteCount]

/-- **Where clipping ends:** the characters that are kept come to at most `n` bytes, and either there are
    no more, or the next one does not fit. -/
theorem clip_cases (n : Nat) (chars : List Char) :
    (byteCount chars ≤ n ∧ clip n chars = chars)
    ∨ ∃ kept ch rest, chars = kept ++ ch :: rest ∧ byteCount kept ≤ n
        ∧ n < byteCount kept + ch.utf8Size
        ∧ clip n chars = kept ++ if byteCount kept = n then [] else [replacement] := by
  induction chars generalizing n with
  | nil => exact .inl ⟨Nat.zero_le n, rfl⟩
  | cons ch rest ih =>
    rw [clip, byteCount_cons]
    by_cases hfits : ch.utf8Size ≤ n
    · rw [if_pos hfits]
      rcases ih (n - ch.utf8Size) with ⟨hshort, hclip⟩ | ⟨kept, next, later, hrest, hle, hlt, hclip⟩
      · exact .inl ⟨by omega, by rw [hclip]⟩
      · -- the bytes of the first character count on both sides
        refine .inr ⟨ch :: kept, next, later, by rw [hrest]; rfl, ?_, ?_, ?_⟩
        · rw [byteCount_cons]
          omega
        · rw [byteCount_cons]
          omega
        · have hsame : (ch.utf8Size + byteCount kept = n) = (byteCount kept = n - ch.utf8Size) := by
            rw [eq_iff_iff]
            omega
          rw [hclip, byteCount_cons, List.cons_append]
          simp only [hsame]
    · rw [if_neg hfits]
      refine .inr ⟨[], ch, rest, rfl, Nat.zero_le n, ?_, ?_⟩
      · show n < 0 + _
        omega
      · show _ = if 0 = n then [] else [replacement]
        simp only [eq_comm]

/-- What the first characters come to grows with their number. -/
theorem byteCount_take_le (chars : List Char) {j k : Nat} (h : j ≤ k) :
    byteCount (chars.take j) ≤ byteCount (chars.take k) := by
  have hsplit : chars.take k = chars.take j ++ (chars.take k).drop j := by
    have htake := List.take_append_drop j (chars.take k)
    rw [List.take_take, Nat.min_eq_left h] at htake
    exact htake.symm
  rw [hsplit, byteCount_append]
  omega

theorem length_encode_firstChars (chars : List Char) (k : Nat) :
    (encode (firstChars (String.ofList chars) k)).length = byteCount (chars.take k) := by
  rw [firstChars, String.toList_ofList, length_encode_ofList]

section

variable {n : Nat} {kept rest : List Char} {ch : Char}

/-- Whoever takes the character that does not fit, takes too much. -/
theorem lt_byteCount_take (hover : n < byteCount kept + ch.utf8Size) {k : Nat}
    (hk : kept.length < k) : n < byteCount ((kept ++ ch :: rest).take k) := by
  have hnext : (kept ++ ch :: rest).take (kept.length + 1) = kept ++ [ch] := by
    rw [List.take_length_add_append]
    rfl
  have hgrows := byteCount_take_le (kept ++ ch :: rest) (Nat.succ_le_of_lt hk)
  rw [hnext, byteCount_append, byteCount_cons] at hgrows
  omega

/-- The longest beginning that fits is the one in front of the character that does not. -/
theorem longestWithin_ofList (hfits : byteCount kept ≤ n) (hover : n < byteCount kept + ch.utf8Size) :
    longestWithin n (String.ofList (kept ++ ch :: rest)) = String.ofList kept := by
  have hlength : kept.length ≤ (String.ofList (kept ++ ch :: rest)).length := by
    rw [String.length_ofList, List.length_append]
    omega
  have hgreatest : Nat.findGreatest
      (fun k => (encode (firstChars (String.ofList (kept ++ ch :: rest)) k)).length ≤ n)
      (String.ofList (kept ++ ch :: rest)).length = kept.length := by
    rw [Nat.findGreatest_eq_iff]
    refine ⟨hlength, fun _ => ?_, fun k hk _ hshort => ?_⟩
    · rw [length_encode_firstChars, List.take_left]
      exact hfits
    · rw [length_encode_firstChars] at hshort
      exact absurd (lt_byteCount_take hover hk) (Nat.not_lt.2 hshort)
  rw [longestWithin, hgreatest, firstChars, String.toList_ofList, List.take_left]

/-- The cut goes through no character exactly if those that fit come to all its bytes. -/
theorem isBoundary_ofList_iff (hfits : byteCount kept ≤ n)
    (hover : n < byteCount kept + ch.utf8Size) :
    IsBoundary n (String.ofList (kept ++ ch :: rest)) ↔ byteCount kept = n := by
  have hkept : (kept ++ ch :: rest).take kept.length = kept := List.take_left
  constructor
  · rintro ⟨k, -, hk⟩
    rw [length_encode_firstChars] at hk
    rcases Nat.lt_or_ge kept.length k with hlater | hearlier
    · have hover' : n < byteCount ((kept ++ ch :: rest).take k) := lt_byteCount_take hover hlater
      omega
    · have hgrows := byteCount_take_le (kept ++ ch :: rest) hearlier
      rw [hkept] at hgrows
      omega
  · intro hexact
    refine ⟨kept.length, ?_, ?_⟩
    · rw [String.length_ofList, List.length_append]
      omega
    · rw [length_encode_firstChars, hkept, hexact]

end

/-- **Clipping cuts a text:** it keeps the longest beginning that fits, and replaces a character that the
    cut goes through. -/
theorem ofList_clip (n : Nat) (s : String) : String.ofList (clip n s.toList) = cutAt n s := by
  obtain ⟨chars, rfl⟩ := s.exists_eq_ofList
  unfold cutAt
  rw [String.toList_ofList, length_encode_ofList]
  rcases clip_cases n chars with ⟨hshort, hclip⟩ | ⟨kept, ch, rest, rfl, hfits, hover, hclip⟩
  · rw [if_pos hshort, hclip]
  · have hlong : ¬ byteCount (kept ++ ch :: rest) ≤ n := by
      rw [byteCount_append, byteCount_cons]
      omega
    rw [if_neg hlong, hclip, longestWithin_ofList hfits hover]
    by_cases hexact : byteCount kept = n
    · rw [if_pos hexact, if_pos ((isBoundary_ofList_iff hfits hover).2 hexact), List.append_nil]
    · rw [if_neg hexact, if_neg fun h => hexact ((isBoundary_ofList_iff hfits hover).1 h),
        String.ofList_append, ← String.append_singleton]
      rfl

end Utf8

/-! ## §2. One value. -/

namespace Value

/-- What a reader asks for to get a value. -/
def field : Value → Field
  | .u8 _ => .u8
  | .i8 _ => .i8
  | .u16 _ => .u16
  | .i16 _ => .i16
  | .u32 _ => .u32
  | .i32 _ => .i32
  | .u64 _ => .u64
  | .f32 _ => .f32
  | .shortText _ => .shortText
  | .longText _ => .longText
  | .raw bytes => .raw bytes.length

/-- Whether the length of a long text can be said in 32 bits; nothing else needs that. -/
def Fits : Value → Prop
  | .longText s => (Utf8.encode s).length < UInt32.size
  | _ => True

/-- **What comes back of a value:** the value, but for a short text that is cut. -/
def readBack : Value → Value
  | .shortText s => .shortText (Utf8.cutAt shortTextLimit s)
  | v => v

end Value

namespace Cursor

variable (position : Nat) (rest : List UInt8)

theorem shortened_eq_cutAt (s : String) : shortened s = Utf8.cutAt shortTextLimit s := by
  rw [shortened, Utf8.decodeLossy_take_encode, Utf8.ofList_clip]

/-- **A text whose length fits is read back.** -/
theorem longText?_encodeLongText {s : String} (h : (Utf8.encode s).length < UInt32.size) :
    (Cursor.mk position (encodeLongText s ++ rest)).longText?
      = some (s, ⟨position + (encodeLongText s).length, rest⟩) := by
  have hlength := u32?_littleEndian position (Utf8.encode s ++ rest)
    (UInt32.ofNat (Utf8.encode s).length)
  rw [UInt32.toNat_ofNat_of_lt' h] at hlength
  simp only [longText?, encodeLongText, List.append_assoc, hlength, Option.bind_some, text?]
  rw [UInt32.toNat_ofNat_of_lt' h, take?_append, Option.map_some, Utf8.decodeLossy_encode,
    List.length_append, length_littleEndian, Nat.add_assoc]

/-- **One value.**  It is read back, and the cursor stands behind its bytes. -/
theorem read?_encode {v : Value} (h : v.Fits) :
    v.field.read? ⟨position, v.encode ++ rest⟩
      = some (.value v.readBack, ⟨position + v.encode.length, rest⟩) := by
  cases v with
  | u8 n => simp [Value.field, Field.read?, Value.encode, Value.readBack, u8?_littleEndian]
  | i8 n => simp [Value.field, Field.read?, Value.encode, Value.readBack, i8?_littleEndian]
  | u16 n => simp [Value.field, Field.read?, Value.encode, Value.readBack, u16?_littleEndian]
  | i16 n => simp [Value.field, Field.read?, Value.encode, Value.readBack, i16?_littleEndian]
  | u32 n => simp [Value.field, Field.read?, Value.encode, Value.readBack, u32?_littleEndian]
  | i32 n => simp [Value.field, Field.read?, Value.encode, Value.readBack, i32?_littleEndian]
  | u64 n => simp [Value.field, Field.read?, Value.encode, Value.readBack, u64?_littleEndian]
  | f32 bits => simp [Value.field, Field.read?, Value.encode, Value.readBack, u32?_littleEndian]
  | shortText s =>
    simp [Value.field, Field.read?, Value.encode, Value.readBack, shortText?_encodeShortText,
      shortened_eq_cutAt]
  | longText s =>
    simp [Value.field, Field.read?, Value.encode, Value.readBack, longText?_encodeLongText _ _ h]
  | raw bytes => simp [Value.field, Field.read?, Value.encode, Value.readBack, take?_append]

end Cursor

/-! ## §3. Sequences. -/

/-- Where a session of reads leaves its cursor. -/
def Cursor.afterReads (c : Cursor) (reads : List (Option Reading × Cursor)) : Cursor :=
  reads.foldl (fun _ read => read.2) c

/-- **Values in front of other bytes:** each read gets the next one, and the session ends in front of the
    other bytes. -/
theorem readAll_encode (vs : List Value) (h : ∀ v ∈ vs, v.Fits) (position : Nat) (rest : List UInt8) :
    let c : Cursor := ⟨position, vs.flatMap Value.encode ++ rest⟩
    let reads := readAll (vs.map Value.field) c
    reads.map Prod.fst = vs.map (fun v => some (.value v.readBack))
    ∧ (c.afterReads reads).rest = rest := by
  induction vs generalizing position with
  | nil => exact ⟨rfl, rfl⟩
  | cons v vs ih =>
    have hfirst := Cursor.read?_encode position (vs.flatMap Value.encode ++ rest)
      (h v List.mem_cons_self)
    have hread : v.field.read ⟨position, (v :: vs).flatMap Value.encode ++ rest⟩
        = (some (.value v.readBack),
            ⟨position + v.encode.length, vs.flatMap Value.encode ++ rest⟩) := by
      rw [Field.read_eq, List.flatMap_cons, List.append_assoc, hfirst]
      rfl
    obtain ⟨hvalues, hrest⟩ := ih (fun later hlater => h later (List.mem_cons_of_mem v hlater))
      (position + v.encode.length)
    intro c reads
    have hreads : reads
        = (some (.value v.readBack), ⟨position + v.encode.length, vs.flatMap Value.encode ++ rest⟩)
          :: readAll (vs.map Value.field)
            ⟨position + v.encode.length, vs.flatMap Value.encode ++ rest⟩ := by
      show readAll (v.field :: vs.map Value.field) c = _
      rw [readAll, hread]
    rw [hreads]
    constructor
    · rw [List.map_cons, List.map_cons, hvalues]
    · exact hrest

/-- **Values come back in the order in which they were written.**  Write any values one behind the other,
    long texts below 2³² bytes, and read with their kinds from the beginning: every read succeeds and
    gives the value back, but for a short text of more than 65535 bytes, which comes back cut there; and
    at the end nothing remains. -/
theorem readAll_flatMap_encode (vs : List Value) (h : ∀ v ∈ vs, v.Fits) :
    let c := Cursor.ofBytes (vs.flatMap Value.encode)
    let reads := readAll (vs.map Value.field) c
    reads.map Prod.fst = vs.map (fun v => some (.value v.readBack))
    ∧ (c.afterReads reads).remaining = 0 := by
  intro c reads
  have hsession := readAll_encode vs h 0 []
  rw [List.append_nil] at hsession
  obtain ⟨hvalues, hrest⟩ := hsession
  refine ⟨hvalues, ?_⟩
  show (c.afterReads reads).rest.length = 0
  rw [show (c.afterReads reads).rest = [] from hrest]
  rfl

/-- A negative number, the bit pattern of a number that is none, bytes that are no text, and two texts: one
    whose last character has its first byte in front of the cut and its second behind it. -/
theorem readAll_flatMap_encode_mixed :
    let long := List.replicate 65534 'a'
    let vs : List Value := [.i16 (-2), .f32 0x7FC00001, .raw [0xFF, 0],
      .shortText (.ofList (long ++ ['ñ'])), .longText "€"]
    (∀ v ∈ vs, v.Fits)
    ∧ (readAll (vs.map Value.field) (.ofBytes (vs.flatMap Value.encode))).map Prod.fst
        = [.i16 (-2), .f32 0x7FC00001, .raw [0xFF, 0], .shortText (.ofList (long ++ [Utf8.replacement])),
            .longText "€"].map fun v => some (.value v) := by
  intro long vs
  have hfits : ∀ v ∈ vs, v.Fits := by
    have heuro : (Utf8.encode "€").length < UInt32.size := by decide
    simp only [vs, List.forall_mem_cons]
    exact ⟨trivial, trivial, trivial, trivial, heuro, List.forall_mem_nil _⟩
  have hclip : ∀ (k : Nat) (rest : List Char),
      Utf8.clip (k + 1) (List.replicate k 'a' ++ rest) = List.replicate k 'a' ++ Utf8.clip 1 rest := by
    intro k rest
    induction k with
    | zero => rfl
    | succ k ih =>
      rw [List.replicate_succ, List.cons_append, Utf8.clip, if_pos (by show 1 ≤ _; omega)]
      show 'a' :: Utf8.clip (k + 1) _ = _
      rw [ih, List.cons_append]
  have hcut : Utf8.cutAt shortTextLimit (.ofList (long ++ ['ñ']))
      = .ofList (long ++ [Utf8.replacement]) := by
    rw [← Utf8.ofList_clip, String.toList_ofList]
    show String.ofList (Utf8.clip (65534 + 1) (List.replicate 65534 'a' ++ ['ñ'])) = _
    rw [hclip]
    rfl
  refine ⟨hfits, ?_⟩
  rw [(readAll_flatMap_encode vs hfits).1]
  simp only [vs, List.map_cons, List.map_nil, Value.readBack, hcut]

end Realm
