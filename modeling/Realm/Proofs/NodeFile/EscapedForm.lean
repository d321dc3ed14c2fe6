/-
  Realm.Proofs.NodeFile.EscapedForm — which bytes are escaped data, and what unescaping makes of the others.

  Escaped data consists of bytes that are no marks and of pairs of an escape mark and a mark, and any such
  bytes are escaped data: escaping and unescaping are inverse between all data and these bytes.  Other bytes
  are unescaped too: an escape mark says that the next byte is data, whatever it is, and one at the end says
  nothing.

  Main statements:
  * `Escaped.behind_escaper` — in escaped data an opener or a closer is the second of a pair;
  * `escape_unescape_iff` — what escaping brings back is what it has made;
  * `paired_or_trailing` — any bytes are paired but for an escape mark at their end;
  * `unescape_inverts_escape` — all of it for any data and any bytes.
-/
import Realm.Proofs.NodeFile.Escaping

namespace Realm.NodeFile

/-! ## §1. Escaped data. -/

/-- **Bytes that escaping makes:** single bytes that are no marks, and pairs of an escape mark and a
    mark. -/
inductive Escaped : List UInt8 → Prop
  | nil : Escaped []
  | plain {b : UInt8} {rest : List UInt8} (unreserved : isReserved b = false) (tail : Escaped rest) :
      Escaped (b :: rest)
  | pair {r : UInt8} {rest : List UInt8} (reserved : isReserved r = true) (tail : Escaped rest) :
      Escaped (escaper :: r :: rest)

theorem escaped_escape (data : List UInt8) : Escaped (escape data) := by
  induction data with
  | nil => exact .nil
  | cons b data ih =>
    rw [escape_cons]
    cases hres : isReserved b with
    | true => exact .pair hres ih
    | false => exact .plain hres ih

/-- Each mark in the data takes one more byte. -/
theorem length_escape (data : List UInt8) :
    (escape data).length = data.length + data.countP isReserved := by
  induction data with
  | nil => rfl
  | cons b data ih =>
    rw [escape_cons, List.length_append, ih, List.countP_cons, List.length_cons]
    cases isReserved b with
    | true =>
      show 2 + _ = _ + 1 + (_ + 1)
      omega
    | false =>
      show 1 + _ = _ + 1 + (_ + 0)
      omega

/-- **In escaped data an opener or a closer is the second of a pair:** right in front of it stands an escape
    mark, and what stands in front of that is escaped data of its own. -/
theorem Escaped.behind_escaper {bytes front back : List UInt8} {c : UInt8} (h : Escaped bytes)
    (hsplit : bytes = front ++ c :: back) (hc : c = opener ∨ c = closer) :
    ∃ before, front = before ++ [escaper] ∧ Escaped before ∧ Escaped back := by
  -- along the singles and pairs of the bytes; the byte lies in the first of them or behind it
  induction h generalizing front with
  | nil => exact absurd hsplit.symm (List.append_ne_nil_of_right_ne_nil _ (List.cons_ne_nil _ _))
  | @plain b rest unreserved tail ih =>
    cases front with
    | nil =>
      obtain ⟨rfl, -⟩ := List.cons.inj hsplit
      rcases hc with rfl | rfl <;> exact absurd unreserved (by decide)
    | cons b' front =>
      obtain ⟨rfl, hrest⟩ := List.cons.inj hsplit
      obtain ⟨before, rfl, hbefore, hback⟩ := ih hrest
      exact ⟨b :: before, rfl, .plain unreserved hbefore, hback⟩
  | @pair r rest reserved tail ih =>
    match front, hsplit with
    | [], hsplit =>
      obtain ⟨rfl, -⟩ := List.cons.inj hsplit
      rcases hc with hc | hc <;> exact absurd hc (by decide)
    | [b], hsplit =>
      obtain ⟨rfl, hrest⟩ := List.cons.inj hsplit
      obtain ⟨rfl, rfl⟩ := List.cons.inj hrest
      exact ⟨[], rfl, .nil, tail⟩
    | b :: b' :: front, hsplit =>
      simp only [List.cons_append, List.cons.injEq] at hsplit
      obtain ⟨rfl, rfl, hrest⟩ := hsplit
      obtain ⟨before, rfl, hbefore, hback⟩ := ih hrest
      exact ⟨escaper :: r :: before, rfl, .pair reserved hbefore, hback⟩

/-! ## §2. Unescaping and escaping again. -/

theorem unescape_escape (data : List UInt8) : unescape (escape data) = data := by
  rw [unescape_eq_decoded, decoded_escape]

theorem ne_escaper_of_unreserved {b : UInt8} (h : isReserved b = false) : b ≠ escaper := by
  rintro rfl
  exact absurd h (by decide)

/-- What escaped data says is escaped as it was. -/
theorem Escaped.escape_decoded {bytes : List UInt8} (h : Escaped bytes) :
    escape (decoded bytes) = bytes := by
  induction h with
  | nil => rfl
  | @plain b rest unreserved tail ih =>
    rw [decoded_plain (ne_escaper_of_unreserved unreserved), escape_cons, ih, unreserved]
    rfl
  | @pair r rest reserved tail ih =>
    rw [decoded_pair, escape_cons, ih, if_pos reserved]
    rfl

/-- **Escaping brings back exactly the bytes that it makes.** -/
theorem escape_unescape_iff (bytes : List UInt8) : escape (unescape bytes) = bytes ↔ Escaped bytes := by
  rw [unescape_eq_decoded]
  constructor
  · intro hback
    rw [← hback]
    exact escaped_escape _
  · exact Escaped.escape_decoded

/-! ## §3. Any bytes. -/

/-- **Bytes in which every escape mark has a byte behind it,** a mark or not. -/
inductive Paired : List UInt8 → Prop
  | nil : Paired []
  | plain {b : UInt8} {rest : List UInt8} (no_escaper : b ≠ escaper) (tail : Paired rest) :
      Paired (b :: rest)
  | pair {b : UInt8} {rest : List UInt8} (tail : Paired rest) : Paired (escaper :: b :: rest)

/-- **Any bytes are paired,** but for an escape mark at their end. -/
theorem paired_or_trailing (bytes : List UInt8) :
    Paired bytes ∨ ∃ front, Paired front ∧ bytes = front ++ [escaper] := by
  -- what holds of the rest holds with a single or a pair in front of it
  induction bytes using decoded.induct with
  | case1 => exact .inl .nil
  | case2 => exact .inr ⟨[], .nil, rfl⟩
  | case3 b hb => exact .inl (.plain hb .nil)
  | case4 c rest ih =>
    rcases ih with hrest | ⟨front, hfront, rfl⟩
    · exact .inl (.pair hrest)
    · exact .inr ⟨escaper :: c :: front, .pair hfront, rfl⟩
  | case5 b c rest hb ih =>
    rcases ih with hrest | ⟨front, hfront, hsplit⟩
    · exact .inl (.plain hb hrest)
    · exact .inr ⟨b :: front, .plain hb hfront, by rw [hsplit]; rfl⟩

/-- An escape mark at the end says nothing. -/
theorem Paired.decoded_trailing {front : List UInt8} (h : Paired front) :
    decoded (front ++ [escaper]) = decoded front := by
  induction h with
  | nil => rfl
  | plain no_escaper tail ih =>
    rw [List.cons_append, decoded_plain no_escaper, decoded_plain no_escaper, ih]
  | pair tail ih => rw [List.cons_append, List.cons_append, decoded_pair, decoded_pair, ih]

/-- The cursor that puts bytes down moves no further than the one that takes them. -/
theorem compact_length_le (buffer : Array UInt8) (size read write : Nat) :
    (compact buffer size read write).2 ≤ write + (size - read) := by
  fun_induction compact buffer size read write with
  | case1 buffer read write hread place hplace ih =>
    have hforward : read ≤ place := by
      unfold place
      split
      · exact Nat.le_succ read
      · exact Nat.le_refl read
    omega
  | case2 => omega
  | case3 => omega

/-- **Unescaping in place** ends with its second cursor behind the data, and not behind the bytes. -/
theorem compact_length (bytes : List UInt8) :
    (compact bytes.toArray bytes.length 0 0).2 = (unescape bytes).length
      ∧ (unescape bytes).length ≤ bytes.length := by
  have hle := compact_length_le bytes.toArray bytes.length 0 0
  have hsize := (compact_spec bytes.toArray bytes.length 0 0 (by simp) (Nat.le_refl 0)).2
  have hkept : (compact bytes.toArray bytes.length 0 0).1.toList.length = bytes.length :=
    Array.length_toList.trans hsize
  have hlength : (unescape bytes).length
      = min (compact bytes.toArray bytes.length 0 0).2
          (compact bytes.toArray bytes.length 0 0).1.toList.length :=
    List.length_take
  omega

/-- **Unescaping inverts escaping, exactly on what escaping makes.**  Escaped data is unescaped to the data;
    it is escaped piece by piece; it is longer than the data by one byte for each mark there; and an opener
    or a closer in it stands right behind an escape mark that begins a pair, with whole singles and pairs in
    front of it and behind.  Of all bytes, escaping brings back those that are single unreserved bytes and
    pairs of an escape mark and a mark, and no others.  Whatever the bytes, unescaping in place comes to an
    end with as many bytes put down as it gives, never more than it was given; and they are pairs and single
    bytes throughout, or an escape mark behind such bytes, which is dropped. -/
theorem unescape_inverts_escape (a b y : List UInt8) :
    unescape (escape a) = a
      ∧ escape (a ++ b) = escape a ++ escape b
      ∧ (escape a).length = a.length + a.countP isReserved
      ∧ (∀ front c back, escape a = front ++ c :: back → c = opener ∨ c = closer →
          ∃ before, front = before ++ [escaper] ∧ Escaped before ∧ Escaped back)
      ∧ (escape (unescape y) = y ↔ Escaped y)
      ∧ (compact y.toArray y.length 0 0).2 = (unescape y).length
      ∧ (unescape y).length ≤ y.length
      ∧ (Paired y ∨ ∃ front, Paired front ∧ y = front ++ [escaper]
          ∧ unescape y = unescape front) := by
  refine ⟨unescape_escape a, escape_append a b, length_escape a,
    fun front c back hsplit => (escaped_escape a).behind_escaper hsplit, escape_unescape_iff y,
    (compact_length y).1, (compact_length y).2, ?_⟩
  rcases paired_or_trailing y with hpaired | ⟨front, hfront, rfl⟩
  · exact .inl hpaired
  · refine .inr ⟨front, hfront, rfl, ?_⟩
    rw [unescape_eq_decoded, unescape_eq_decoded, hfront.decoded_trailing]

/-- A pair of an escape mark and a plain byte is read as the byte, which is written back alone. -/
example : unescape [escaper, 7, opener, escaper] = [7, opener]
    ∧ escape [7, opener] = [7, escaper, opener] := by
  decide +kernel

end Realm.NodeFile
