/-
  Realm.Proofs.Blob.AllOrNothing — a read takes a whole field, or nothing.

  A field takes up a stretch of a blob: so many bytes, or a length and as many bytes as the length says.
  A read finds out whether the stretch at its place is all there.  If so it takes the stretch and says what
  the bytes of the stretch say; if not it leaves the cursor where it was, however far it had to move it to
  find out.

  Main statements:
  * `exists_spans_iff` — the stretch of a field is all there when enough bytes are;
  * `read_of_spans`, `read_of_not_spans` — one read;
  * `Within.read`, `Within.readAll` — a cursor stays within its blob, in one read and in a session;
  * `readAll_all_or_nothing` — every read of every session.
-/
import Realm.Proofs.Blob.RoundTrip

namespace Realm

/-! ## §1. The bytes of a field. -/

/-- How much of a blob a field takes: so many bytes, or a length of some width and as many bytes behind it
    as it says. -/
inductive Extent
  | counted (n : Nat)
  | announced (width : Nat)
deriving Repr, DecidableEq

namespace Field

def extent : Field → Extent
  | u8 | i8 => .counted 1
  | u16 | i16 => .counted 2
  | u32 | i32 | f32 => .counted 4
  | u64 => .counted 8
  | shortText => .announced 2
  | longText => .announced 4
  | text n | raw n | skip n => .counted n

/-- **Whether bytes are one whole field** of a kind, with nothing missing and nothing left over. -/
def Spans (f : Field) (bytes : List UInt8) : Prop :=
  match f.extent with
  | .counted n => bytes.length = n
  | .announced width => ∃ length body, bytes = length ++ body ∧ length.length = width
      ∧ body.length = ofLittleEndian length

/-- **What the bytes of a field say.** -/
def reading : Field → List UInt8 → Reading
  | u8, bytes => .value (.u8 (.ofNat (ofLittleEndian bytes)))
  | i8, bytes => .value (.i8 (UInt8.ofNat (ofLittleEndian bytes)).toInt8)
  | u16, bytes => .value (.u16 (.ofNat (ofLittleEndian bytes)))
  | i16, bytes => .value (.i16 (UInt16.ofNat (ofLittleEndian bytes)).toInt16)
  | u32, bytes => .value (.u32 (.ofNat (ofLittleEndian bytes)))
  | i32, bytes => .value (.i32 (UInt32.ofNat (ofLittleEndian bytes)).toInt32)
  | u64, bytes => .value (.u64 (.ofNat (ofLittleEndian bytes)))
  | f32, bytes => .value (.f32 (.ofNat (ofLittleEndian bytes)))
  | shortText, bytes => .value (.shortText (Utf8.decodeLossy (bytes.drop 2)))
  | longText, bytes => .value (.longText (Utf8.decodeLossy (bytes.drop 4)))
  | text _, bytes => .text (Utf8.decodeLossy bytes)
  | raw _, bytes => .value (.raw bytes)
  | skip _, _ => .skipped

/-- How many bytes a field takes that begins with these. -/
def size (f : Field) (front : List UInt8) : Nat :=
  match f.extent with
  | .counted n => n
  | .announced width => width + ofLittleEndian (front.take width)

variable {f : Field} {front bytes : List UInt8}

/-- In front of other bytes, a field takes as many as its size says. -/
theorem spans_iff (h : bytes <+: front) : f.Spans bytes ↔ bytes.length = f.size front := by
  obtain ⟨behind, rfl⟩ := h
  unfold Spans size
  cases f.extent with
  | counted n => exact Iff.rfl
  | announced width =>
    constructor
    · rintro ⟨length, body, rfl, hlength, hbody⟩
      have htake : (length ++ body ++ behind).take width = length := by
        rw [List.append_assoc, ← hlength, List.take_left]
      show _ = width + ofLittleEndian _
      rw [htake, List.length_append, hlength, hbody]
    · intro (hsize : bytes.length = width + ofLittleEndian ((bytes ++ behind).take width))
      -- the length is all there, since the whole is
      have hwidth : width ≤ bytes.length := by
        rw [hsize]
        exact Nat.le_add_right _ _
      have htake : (bytes ++ behind).take width = bytes.take width :=
        List.take_append_of_le_length hwidth
      refine ⟨bytes.take width, bytes.drop width, (List.take_append_drop _ _).symm, ?_, ?_⟩
      · exact List.length_take_of_le hwidth
      · rw [List.length_drop, hsize, htake]
        omega

/-- **The whole field is there** when as many bytes are as it takes. -/
theorem exists_spans_iff :
    (∃ bytes, bytes <+: front ∧ f.Spans bytes) ↔ f.size front ≤ front.length := by
  constructor
  · rintro ⟨bytes, hfront, hspans⟩
    rw [← (spans_iff hfront).1 hspans]
    exact hfront.length_le
  · intro hsize
    refine ⟨front.take (f.size front), List.take_prefix _ _, ?_⟩
    rw [spans_iff (List.take_prefix _ _), List.length_take_of_le hsize]

/-! ## §2. One read. -/

/-- What is made of what bytes say is the reading of a field, when they are as many. -/
theorem map_reading {α : Type} {f : Field} {c : Cursor} {n : Nat} {read : Option (α × Cursor)}
    {say : List UInt8 → α} (make : α → Reading) (hread : read = c.said? n say)
    (hsize : f.size c.rest = n) (hmake : ∀ bytes, f.reading bytes = make (say bytes)) :
    read.map (fun e => (make e.1, e.2)) = c.said? (f.size c.rest) f.reading := by
  rw [hread, Cursor.map_said?, hsize, funext hmake]

/-- A read says what the bytes of its field say. -/
theorem read?_eq (f : Field) (c : Cursor) : f.read? c = c.said? (f.size c.rest) f.reading := by
  cases f with
  | u8 => exact map_reading (fun n => .value (.u8 n)) c.u8?_eq rfl fun _ => rfl
  | i8 => exact map_reading (fun n => .value (.i8 n)) c.i8?_eq rfl fun _ => rfl
  | u16 => exact map_reading (fun n => .value (.u16 n)) c.u16?_eq rfl fun _ => rfl
  | i16 => exact map_reading (fun n => .value (.i16 n)) c.i16?_eq rfl fun _ => rfl
  | u32 => exact map_reading (fun n => .value (.u32 n)) c.u32?_eq rfl fun _ => rfl
  | i32 => exact map_reading (fun n => .value (.i32 n)) c.i32?_eq rfl fun _ => rfl
  | u64 => exact map_reading (fun n => .value (.u64 n)) c.u64?_eq rfl fun _ => rfl
  | f32 => exact map_reading (fun n => .value (.f32 n)) c.u32?_eq rfl fun _ => rfl
  | shortText => exact map_reading (fun s => .value (.shortText s)) c.shortText?_eq rfl fun _ => rfl
  | longText => exact map_reading (fun s => .value (.longText s)) c.longText?_eq rfl fun _ => rfl
  | text n => exact c.map_said? n Utf8.decodeLossy Reading.text
  | raw n => rfl
  | skip n => exact c.skip?_eq n Reading.skipped

/-- A read by the size of its field. -/
theorem read_eq_ite (f : Field) (c : Cursor) : f.read c
    = if f.size c.rest ≤ c.rest.length
      then (some (f.reading (c.rest.take (f.size c.rest))), c.advance (f.size c.rest))
      else (none, c) := by
  rw [read_eq, read?_eq, Cursor.said?_eq]
  split <;> rfl

variable {c : Cursor}

/-- **A field that is all there** is read: the answer is what its bytes say, and the cursor goes to the end
    of it. -/
theorem read_of_spans (hfront : bytes <+: c.rest) (hspans : f.Spans bytes) :
    f.read c = (some (f.reading bytes), c.advance bytes.length) := by
  have hlength := (spans_iff hfront).1 hspans
  have hle : f.size c.rest ≤ c.rest.length := by
    rw [← hlength]
    exact hfront.length_le
  rw [read_eq_ite, if_pos hle, ← hlength, ← List.prefix_iff_eq_take.1 hfront]

/-- **A field that is not all there** is not read, and the cursor does not move. -/
theorem read_of_not_spans (h : ¬ ∃ bytes, bytes <+: c.rest ∧ f.Spans bytes) :
    f.read c = (none, c) := by
  rw [exists_spans_iff] at h
  rw [read_eq_ite, if_neg h]

theorem isSome_read_iff (f : Field) (c : Cursor) :
    (f.read c).1.isSome ↔ ∃ bytes, bytes <+: c.rest ∧ f.Spans bytes := by
  by_cases h : ∃ bytes, bytes <+: c.rest ∧ f.Spans bytes
  · obtain ⟨bytes, hfront, hspans⟩ := h
    rw [read_of_spans hfront hspans]
    exact ⟨fun _ => ⟨bytes, hfront, hspans⟩, fun _ => rfl⟩
  · rw [read_of_not_spans h]
    exact ⟨nofun, fun hthere => absurd hthere h⟩

end Field

/-! ## §3. Sessions. -/

namespace Cursor

/-- **A cursor within a blob:** what is left is the blob from the cursor's position on. -/
structure Within (data : List UInt8) (c : Cursor) : Prop where
  position_le : c.position ≤ data.length
  rest_eq : c.rest = data.drop c.position

variable {data : List UInt8} {c : Cursor}

theorem within_ofBytes (data : List UInt8) : (ofBytes data).Within data :=
  ⟨Nat.zero_le _, rfl⟩

/-- What was read and what is left make up the blob. -/
theorem Within.position_add_remaining (h : c.Within data) :
    c.position + c.remaining = data.length := by
  have hle := h.position_le
  rw [remaining, h.rest_eq, List.length_drop]
  omega

/-- A cursor that passes over bytes that are there stays within its blob. -/
theorem Within.advance (h : c.Within data) {n : Nat} (hn : n ≤ c.rest.length) :
    (c.advance n).Within data where
  position_le := by
    have haccount := h.position_add_remaining
    show c.position + n ≤ data.length
    rw [remaining] at haccount
    omega
  rest_eq := by
    show c.rest.drop n = data.drop (c.position + n)
    rw [h.rest_eq, List.drop_drop]

/-- **A read keeps a cursor within its blob,** whether it succeeds or not. -/
theorem Within.read (h : c.Within data) (f : Field) : (f.read c).2.Within data := by
  rw [f.read_eq_ite]
  split
  · exact h.advance ‹_›
  · exact h

/-- No read goes back. -/
theorem position_le_read (c : Cursor) (f : Field) : c.position ≤ (f.read c).2.position := by
  rw [f.read_eq_ite]
  split
  · exact Nat.le_add_right _ _
  · exact Nat.le_refl _

/-- **A session keeps a cursor within its blob.** -/
theorem Within.readAll (h : c.Within data) (fields : List Field) :
    (c.afterReads (readAll fields c)).Within data := by
  -- read by read, each from where the one before it left the cursor
  induction fields generalizing c with
  | nil => exact h
  | cons f fields ih => exact ih (h.read f)

end Cursor

/-- A session goes on where it stands. -/
theorem readAll_append (fields later : List Field) (c : Cursor) :
    readAll (fields ++ later) c
      = readAll fields c ++ readAll later (c.afterReads (readAll fields c)) := by
  induction fields generalizing c with
  | nil => rfl
  | cons f fields ih =>
    show f.read c :: readAll (fields ++ later) (f.read c).2 = _
    rw [ih]
    rfl

/-- **All or nothing.**  In any session on any blob, take any read, of any kind and with any length, and
    the cursor that the reads before it leave.  The cursor stands within the blob, before the read and
    behind it, so what was read and what is left always make up the blob, and no position is ever larger
    than the blob is long; and the read does not go back.  It succeeds exactly if one whole field of its
    kind, with the length in front of a text and all that the length says, lies at the cursor.  Then the
    answer is what the bytes of the field say, and the cursor moves by their number; else the cursor is left
    where it was. -/
theorem readAll_all_or_nothing (data : List UInt8) (earlier : List Field) (f : Field)
    (later : List Field) :
    let start := Cursor.ofBytes data
    let c := start.afterReads (readAll earlier start)
    let step := f.read c
    readAll (earlier ++ f :: later) start = readAll earlier start ++ step :: readAll later step.2
      ∧ c.rest = data.drop c.position
      ∧ step.2.position + step.2.remaining = data.length
      ∧ c.position ≤ step.2.position
      ∧ (step.1.isSome ↔ ∃ bytes, bytes <+: c.rest ∧ f.Spans bytes)
      ∧ (∀ bytes, bytes <+: c.rest → f.Spans bytes →
          step.1 = some (f.reading bytes) ∧ step.2.position = c.position + bytes.length)
      ∧ (step.1 = none → step.2 = c) := by
  intro start c step
  have hwithin : c.Within data := (Cursor.within_ofBytes data).readAll earlier
  refine ⟨readAll_append earlier (f :: later) start, hwithin.rest_eq,
    (hwithin.read f).position_add_remaining, c.position_le_read f, f.isSome_read_iff c, ?_, ?_⟩
  · intro bytes hfront hspans
    have hread : step = (some (f.reading bytes), c.advance bytes.length) :=
      Field.read_of_spans hfront hspans
    rw [hread]
    exact ⟨rfl, rfl⟩
  · intro hnone
    have hnot : ¬ ∃ bytes, bytes <+: c.rest ∧ f.Spans bytes := by
      rw [← f.isSome_read_iff c, show (f.read c).1 = none from hnone]
      exact nofun
    have hread : step = (none, c) := Field.read_of_not_spans hnot
    rw [hread]

/-- A text that is cut off leaves its length to be read again. -/
example :
    readAll [.shortText, .u16, .skip (2 ^ 64 - 1), .text 3] (.ofBytes [10, 0, 97, 98, 99])
      = [(none, ⟨0, [10, 0, 97, 98, 99]⟩), (some (.value (.u16 10)), ⟨2, [97, 98, 99]⟩),
          (none, ⟨2, [97, 98, 99]⟩), (some (.text "abc"), ⟨5, []⟩)] := by
  decide +kernel

end Realm
