/-
  Realm.Proofs.NodeFile.Escaping — what escaped bytes say, and unescaping in place.

  `decoded` reads escaped bytes from left to right.  Unescaping does the same inside one buffer, with one
  cursor that takes bytes and one that puts them down behind it: the part in front of the second is done,
  the part from the first on is still as it was.

  Main statements:
  * `compact_spec` — unescaping in place gives what the bytes say, whatever else the buffer holds;
  * `decoded_escape` — escaped data says the data;
  * `valid_written` — a forest can be read as it is written.
-/
import Realm.Proofs.NodeFile.Forest

namespace Realm.NodeFile

/-! ## §1. What escaped bytes say. -/

/-- The data behind escaped bytes.  A last escape mark with nothing behind it says nothing. -/
def decoded : List UInt8 → List UInt8
  | [] => []
  | [b] => if b = escaper then [] else [b]
  | b :: c :: rest => if b = escaper then c :: decoded rest else b :: decoded (c :: rest)

theorem decoded_pair (c : UInt8) (rest : List UInt8) :
    decoded (escaper :: c :: rest) = c :: decoded rest := by
  rw [decoded, if_pos rfl]

theorem decoded_plain {b : UInt8} (hb : b ≠ escaper) (rest : List UInt8) :
    decoded (b :: rest) = b :: decoded rest := by
  cases rest with
  | nil => simp [decoded, hb]
  | cons c rest => rw [decoded, if_neg hb]

/-! ## §2. Unescaping in place. -/

/-- Putting a byte down behind what is done. -/
theorem take_succ_set {l : List UInt8} {i : Nat} (hi : i < l.length) (c : UInt8) :
    (l.set i c).take (i + 1) = l.take i ++ [c] := by
  rw [List.set_eq_take_append_cons_drop, if_pos hi]
  have hlen : (l.take i).length = i := by
    rw [List.length_take]
    omega
  rw [List.take_append, hlen, List.take_take, Nat.min_eq_right (Nat.le_succ i)]
  simp

/-- Putting a byte down in front of the reading cursor leaves what is still to be read. -/
theorem drop_take_set {l : List UInt8} {i place : Nat} (hi : i < place) (size : Nat) (c : UInt8) :
    ((l.set i c).take size).drop place = (l.take size).drop place := by
  rw [List.take_set, List.drop_set_of_lt hi]

theorem drop_take_eq_cons {buffer : Array UInt8} {size place : Nat} (hsize : size ≤ buffer.size)
    (h : place < size) :
    (buffer.toList.take size).drop place
      = buffer[place] :: (buffer.toList.take size).drop (place + 1) := by
  have hlen : place < (buffer.toList.take size).length := by
    rw [List.length_take, Array.length_toList]
    omega
  rw [List.drop_eq_getElem_cons hlen, List.getElem_take, Array.getElem_toList]

/-- **Unescaping in place** keeps what is done and appends what the rest says. -/
theorem compact_spec (buffer : Array UInt8) (size read write : Nat) (hsize : size ≤ buffer.size)
    (hle : write ≤ read) :
    (compact buffer size read write).1.toList.take (compact buffer size read write).2
        = buffer.toList.take write ++ decoded ((buffer.toList.take size).drop read)
      ∧ (compact buffer size read write).1.size = buffer.size := by
  induction hn : size - read using Nat.strongRecOn generalizing buffer read write with
  | ind n ih =>
    subst hn
    -- one byte `c`, found at `place`, goes to `write`; the rest is unescaped behind it
    have hmove : ∀ (place : Nat) (hplace : place < size), read ≤ place →
        decoded ((buffer.toList.take size).drop read)
          = buffer[place] :: decoded ((buffer.toList.take size).drop (place + 1)) →
        let moved := compact (buffer.setIfInBounds write (buffer.getD place 0)) size (place + 1)
          (write + 1)
        moved.1.toList.take moved.2
            = buffer.toList.take write ++ decoded ((buffer.toList.take size).drop read)
          ∧ moved.1.size = buffer.size := by
      intro place hplace hge hdec
      have hget : buffer.getD place 0 = buffer[place] := by
        rw [Array.getD, dif_pos (by omega)]
        rfl
      have hwrite : write < buffer.toList.length := by
        rw [Array.length_toList]
        omega
      obtain ⟨htake, hkeep⟩ := ih (size - (place + 1)) (by omega)
        (buffer.setIfInBounds write buffer[place]) (place + 1) (write + 1)
        (by rw [Array.size_setIfInBounds]; exact hsize) (by omega) rfl
      rw [hget, hdec]
      refine ⟨?_, by rw [hkeep, Array.size_setIfInBounds]⟩
      rw [htake, Array.toList_setIfInBounds, take_succ_set hwrite, drop_take_set (by omega),
        List.append_assoc]
      rfl
    unfold compact
    by_cases hread : read < size
    case neg =>
      rw [if_neg hread]
      refine ⟨?_, rfl⟩
      rw [List.drop_eq_nil_iff.mpr (by rw [List.length_take]; omega)]
      simp [decoded]
    rw [if_pos hread]
    have hcons := drop_take_eq_cons hsize hread
    have hget : buffer[read]? = some buffer[read] := Array.getElem?_eq_getElem (by omega)
    by_cases hesc : buffer[read] = escaper
    · simp only [hget, hesc, if_true]
      by_cases hnext : read + 1 < size
      · rw [if_pos hnext]
        refine hmove (read + 1) hnext (by omega) ?_
        rw [hcons, hesc, drop_take_eq_cons hsize hnext, decoded_pair]
      · rw [if_neg hnext]
        refine ⟨?_, rfl⟩
        rw [hcons, hesc, List.drop_eq_nil_iff.mpr (by rw [List.length_take]; omega)]
        simp [decoded]
    · have hne : ¬ some buffer[read] = some escaper := by simpa using hesc
      simp only [hget, if_neg hne]
      rw [if_pos hread]
      refine hmove read hread (Nat.le_refl _) ?_
      rw [hcons, decoded_plain hesc]

/-- Unescaping gives what the bytes say. -/
theorem unescape_eq_decoded (bytes : List UInt8) : unescape bytes = decoded bytes := by
  have h := (compact_spec bytes.toArray bytes.length 0 0 (by simp) (Nat.le_refl 0)).1
  have hall : bytes.toArray.toList.take bytes.length = bytes := by simp
  rw [List.take_zero, List.nil_append, List.drop_zero, hall] at h
  exact h

/-! ## §3. Escaped data. -/

@[simp] theorem escape_nil : escape [] = [] := rfl

theorem escape_cons (b : UInt8) (data : List UInt8) :
    escape (b :: data) = (if isReserved b then [escaper, b] else [b]) ++ escape data := by
  simp [escape]

theorem escape_append (a b : List UInt8) : escape (a ++ b) = escape a ++ escape b := by
  simp [escape]

/-- **Escaped data says the data.** -/
theorem decoded_escape (data : List UInt8) : decoded (escape data) = data := by
  induction data with
  | nil => rfl
  | cons b data ih =>
    rw [escape_cons]
    by_cases hres : isReserved b
    · rw [if_pos hres]
      exact (decoded_pair b (escape data)).trans (by rw [ih])
    · rw [if_neg hres]
      have hne : b ≠ escaper := by
        rintro rfl
        exact hres rfl
      exact (decoded_plain hne (escape data)).trans (by rw [ih])

/-- **Escaped data may stand among properties.** -/
theorem propsText_escape (data : List UInt8) : PropsText (escape data) := by
  induction data with
  | nil => exact .nil
  | cons b data ih =>
    rw [escape_cons]
    by_cases hres : isReserved b
    · rw [if_pos hres]
      exact .pair ih
    · rw [if_neg hres]
      exact .plain (by simpa using hres) ih

theorem escape_flatten (pieces : List (List UInt8)) :
    escape pieces.flatten = pieces.flatMap escape := by
  induction pieces with
  | nil => rfl
  | cons piece pieces ih => rw [List.flatten_cons, escape_append, ih, List.flatMap_cons]

/-! ## §4. Forests as they are written. -/

/-- How a node of a kind with some data is written. -/
def Spelling.written (kind : UInt8) (data : List UInt8) : Spelling := ⟨isReserved kind, escape data⟩

/-- A kind is escaped like any other byte. -/
theorem Spelling.kindBytes_written (kind : UInt8) (data : List UInt8) :
    (Spelling.written kind data).kindBytes kind = escape [kind] := by
  rw [escape_cons, escape_nil, List.append_nil]
  rfl

namespace Forest

/-- The spelling in which a forest is written. -/
def written (f : Forest (List UInt8)) : Forest Spelling := f.map Spelling.written

/-- **A forest can be read as it is written.** -/
theorem valid_written (f : Forest (List UInt8)) : f.written.Valid := by
  induction f with
  | nil => trivial
  | node kind data inside behind ihInside ihBehind =>
    refine ⟨⟨?_, propsText_escape data⟩, ihInside, ihBehind⟩
    intro hplain hkind
    rw [hkind] at hplain
    exact absurd (show isReserved escaper = false from hplain) (by decide)

/-- The data behind a spelling. -/
def said (f : Forest Spelling) : Forest (List UInt8) := f.map fun _ s => decoded s.props

/-- **A forest says what was written.** -/
theorem said_written (f : Forest (List UInt8)) : f.written.said = f := by
  induction f with
  | nil => rfl
  | node kind data inside behind ihInside ihBehind =>
    show node kind (decoded (escape data)) inside.written.said behind.written.said = _
    rw [decoded_escape, ihInside, ihBehind]

end Forest

end Realm.NodeFile
