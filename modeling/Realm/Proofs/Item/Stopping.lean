/-
  Realm.Proofs.Item.Stopping — where the records of an item stop.

  Each tag that is known has a format behind it: so many bytes, or a text after its length.  Of any bytes
  a reader takes whole records as long as there are any, and stops at the first thing that is none: the
  end, a tag without a record, a tag that is not known, or one with too few bytes behind it.

  Main statements:
  * `payload?_eq` — a payload is read by the format of its tag;
  * `exists_run` — any bytes are a run of whole records and what stops it;
  * `Run.length_le_of_stops` — no longer run stands in front;
  * `decodeRecords_stops` — any bytes, read into any item.
-/
import Realm.Proofs.Item.Records

namespace Realm

/-! ## §1. Formats. -/

namespace Record

/-- **How a payload is laid out:** so many bytes, or a text after its 16-bit length. -/
inductive Format
  | bytes (n : Nat)
  | text
deriving Repr, DecidableEq

/-- How many bytes a payload takes when it begins with these. -/
def Format.size : Format → List UInt8 → Nat
  | bytes n, _ => n
  | text, front => 2 + ofLittleEndian (front.take 2)

end Record

/-- **The tags that are known,** with the format behind each.  The zero tag is none of them. -/
def Tag.formats : List (UInt8 × Record.Format) := [
  (count, .bytes 1), (runeCharges, .bytes 1), (decayState, .bytes 1), (actionId, .bytes 2),
  (uniqueId, .bytes 2), (charges, .bytes 2), (writtenDate, .bytes 4), (duration, .bytes 4),
  (text, .text), (writer, .text), (description, .text), (houseDoorId, .bytes 1), (depotId, .bytes 2),
  (sleeperId, .bytes 4), (sleepStart, .bytes 4), (teleportTarget, .bytes 5),
  (containerItems, .bytes 4)]

/-- The format behind a tag, when it is known. -/
def Tag.format? (tag : UInt8) : Option Record.Format := formats.lookup tag

theorem Tag.format?_eq_none_iff {tag : UInt8} :
    format? tag = none ↔ tag ∉ formats.map Prod.fst := by
  rw [format?, List.lookup_eq_none_iff]
  simp only [List.mem_map, not_exists, not_and, bne_iff_ne, ne_eq]
  exact forall_congr' fun e => imp_congr_right fun _ => not_congr eq_comm

namespace Record

/-- What a payload says under a tag. -/
def ofPayload (tag : UInt8) (payload : List UInt8) : Record :=
  let n := ofLittleEndian payload
  let s := Utf8.decodeLossy (payload.drop 2)
  if tag = Tag.count ∨ tag = Tag.runeCharges then .count (.ofNat n)
  else if tag = Tag.actionId then .actionId (.ofNat n)
  else if tag = Tag.uniqueId then .uniqueId (.ofNat n)
  else if tag = Tag.text then .text s
  else if tag = Tag.writtenDate then .writtenDate (.ofNat n)
  else if tag = Tag.writer then .writer s
  else if tag = Tag.description then .description s
  else if tag = Tag.charges then .charges (.ofNat n)
  else if tag = Tag.duration then .duration (UInt32.ofNat n).toInt32
  else if tag = Tag.decayState then .decayState (.ofNat n)
  else if tag = Tag.containerItems then .container (.ofNat n)
  else .foreign

/-- A field is read by the format of its tag, when it has the size that the format says. -/
theorem map_field {α : Type} {tag : UInt8} {f : Format} {c : Cursor} {read : Option (α × Cursor)}
    {say : List UInt8 → α} (record : α → Record) (hformat : Tag.format? tag = some f)
    (hread : read = c.said? (f.size c.rest) say)
    (hrecord : ∀ bytes, ofPayload tag bytes = record (say bytes)) :
    some (read.map fun e => (record e.1, e.2))
      = (Tag.format? tag).map fun f => c.said? (f.size c.rest) (ofPayload tag) := by
  rw [hread, Cursor.map_said?, hformat, Option.map_some, funext hrecord]

/-- A tag for other kinds of items is passed over by its format. -/
theorem map_foreign {tag : UInt8} {n : Nat} {c : Cursor} (hformat : Tag.format? tag = some (.bytes n))
    (hrecord : ∀ bytes, ofPayload tag bytes = .foreign) :
    some ((c.skip? n).map fun c => (Record.foreign, c))
      = (Tag.format? tag).map fun f => c.said? (f.size c.rest) (ofPayload tag) := by
  rw [Cursor.skip?_eq, hformat, Option.map_some, funext hrecord]
  rfl

/-- **A payload is read by the format of its tag:** it is there when its bytes are, and says what they
    say. -/
theorem payload?_eq (tag : UInt8) (c : Cursor) : payload? tag c
    = (Tag.format? tag).map fun f => c.said? (f.size c.rest) (ofPayload tag) := by
  -- tag by tag, as far as they are known; of any other tag both sides say nothing
  by_cases hknown : tag ∈ Tag.formats.map Prod.fst
  · simp only [Tag.formats, List.map_cons, List.map_nil, List.mem_cons, List.not_mem_nil, or_false]
      at hknown
    rcases hknown with rfl | rfl | rfl | rfl | rfl | rfl | rfl | rfl | rfl | rfl | rfl | rfl | rfl | rfl
      | rfl | rfl | rfl
    · exact map_field .count rfl c.u8?_eq fun _ => rfl
    · exact map_field .count rfl c.u8?_eq fun _ => rfl
    · exact map_field .decayState rfl c.u8?_eq fun _ => rfl
    · exact map_field .actionId rfl c.u16?_eq fun _ => rfl
    · exact map_field .uniqueId rfl c.u16?_eq fun _ => rfl
    · exact map_field .charges rfl c.u16?_eq fun _ => rfl
    · exact map_field .writtenDate rfl c.u32?_eq fun _ => rfl
    · exact map_field .duration rfl c.i32?_eq fun _ => rfl
    · exact map_field .text rfl c.shortText?_eq fun _ => rfl
    · exact map_field .writer rfl c.shortText?_eq fun _ => rfl
    · exact map_field .description rfl c.shortText?_eq fun _ => rfl
    · exact map_foreign rfl fun _ => rfl
    · exact map_foreign rfl fun _ => rfl
    · exact map_foreign rfl fun _ => rfl
    · exact map_foreign rfl fun _ => rfl
    · exact map_foreign rfl fun _ => rfl
    · exact map_field .container rfl c.u32?_eq fun _ => rfl
  · rw [Tag.format?_eq_none_iff.2 hknown, Option.map_none]
    simp only [Tag.formats, List.map_cons, List.map_nil, List.mem_cons, List.not_mem_nil, or_false,
      not_or] at hknown
    simp [payload?, Tag.foreignSize?, hknown]

/-! ## §2. Whole records. -/

/-- **A payload is full** for its tag: it has the size that its format says.  The tag in front of the
    number of items inside ends a run, so it makes no record. -/
structure Whole (tag : UInt8) (payload : List UInt8) : Prop where
  not_container : tag ≠ Tag.containerItems
  full : ∃ f, Tag.format? tag = some f ∧ f.size payload = payload.length

/-- The size of a full payload does not hang on what stands behind it. -/
theorem Format.size_append {f : Format} {payload : List UInt8} (h : f.size payload = payload.length)
    (behind : List UInt8) : f.size (payload ++ behind) = payload.length := by
  cases f with
  | bytes n => exact h
  | text =>
    -- a full payload holds the length of its text
    simp only [size] at h ⊢
    rw [List.take_append_of_le_length (by omega), h]

/-- A payload is full when its bytes are there. -/
theorem Format.exists_full {f : Format} {front : List UInt8} (h : f.size front ≤ front.length) :
    ∃ payload behind, front = payload ++ behind ∧ f.size payload = payload.length := by
  refine ⟨front.take (f.size front), front.drop (f.size front), (List.take_append_drop _ _).symm, ?_⟩
  rw [List.length_take, Nat.min_eq_left h]
  cases f with
  | bytes n => rfl
  | text =>
    simp only [size]
    rw [List.take_take, Nat.min_eq_left (Nat.le_add_right _ _)]

theorem ofPayload_ne_container {tag : UInt8} (h : tag ≠ Tag.containerItems)
    (payload : List UInt8) (n : UInt32) : ofPayload tag payload ≠ .container n := by
  have hbranch : ∀ {p : Prop} [Decidable p] {r s : Record}, r ≠ .container n → s ≠ .container n →
      (if p then r else s) ≠ .container n := by
    intro p _ r s hr hs
    split
    · exact hr
    · exact hs
  unfold ofPayload
  extract_lets
  rw [if_neg h]
  -- none of the other branches makes a container
  repeat' apply hbranch
  all_goals nofun

namespace Whole

variable {tag : UInt8} {payload : List UInt8}

theorem not_finish (h : Whole tag payload) : tag ≠ Tag.finish := by
  rintro rfl
  obtain ⟨f, hformat, -⟩ := h.full
  cases hformat

/-- **A full payload says its record,** whatever stands behind it. -/
theorem says_record (h : Whole tag payload) : Says tag payload (ofPayload tag payload) where
  not_finish := h.not_finish
  not_container := ofPayload_ne_container h.not_container payload
  read position rest := by
    obtain ⟨f, hformat, hfull⟩ := h.full
    rw [payload?_eq, hformat, Option.map_some]
    dsimp only
    rw [Format.size_append hfull, Cursor.said?, Cursor.take?_append]
    rfl

/-- Of one tag no full payload stands in front of a longer one. -/
theorem unique {payload' rest rest' : List UInt8} (h : Whole tag payload) (h' : Whole tag payload')
    (hsame : payload ++ rest = payload' ++ rest') : payload = payload' ∧ rest = rest' := by
  obtain ⟨f, hformat, hfull⟩ := h.full
  obtain ⟨f', hformat', hfull'⟩ := h'.full
  obtain rfl : f = f' := Option.some.inj (hformat.symm.trans hformat')
  refine List.append_inj hsame ?_
  rw [← Format.size_append hfull rest, hsame, Format.size_append hfull']

end Whole

/-! ## §3. Runs and what stops them. -/

/-- **A run of whole records,** and what they say. -/
inductive Run : List UInt8 → List Record → Prop
  | nil : Run [] []
  | cons {tag : UInt8} {payload bytes : List UInt8} {records : List Record} (head : Whole tag payload)
      (tail : Run bytes records) :
      Run (tag :: (payload ++ bytes)) (ofPayload tag payload :: records)

/-- One run behind another is a run. -/
theorem Run.append {run more : List UInt8} {records others : List Record} (h : Run run records)
    (hmore : Run more others) : Run (run ++ more) (records ++ others) := by
  induction h with
  | nil => exact hmore
  | cons head _ ih =>
    rw [List.cons_append, List.append_assoc]
    exact .cons head ih

/-- **What stops a run,** how the run ends there, and how many bytes more are taken. -/
inductive Stops : List UInt8 → RecordsEnd → Nat → Prop
  | atEnd : Stops [] .complete 0
  | finish (rest : List UInt8) : Stops (Tag.finish :: rest) .complete 1
  /-- Four more bytes are there, and are a number. -/
  | container (n : UInt32) (rest : List UInt8) :
      Stops (Tag.containerItems :: (littleEndian 4 n.toNat ++ rest)) (.container n) 5
  /-- The tag is known, but there are too few bytes behind it. -/
  | truncated {tag : UInt8} {f : Format} {rest : List UInt8} (known : Tag.format? tag = some f)
      (short : rest.length < f.size rest) : Stops (tag :: rest) (.failed (.truncated tag)) 1
  /-- The tag is not known. -/
  | unknown {tag : UInt8} (rest : List UInt8) (unknown : Tag.format? tag = none)
      (not_finish : tag ≠ Tag.finish) : Stops (tag :: rest) (.failed (.unknownTag tag)) 1

/-- A whole record does not stop a run. -/
theorem Whole.not_stops {tag : UInt8} {payload : List UInt8} (h : Whole tag payload)
    (behind : List UInt8) {stop : RecordsEnd} {n : Nat} :
    ¬ Stops (tag :: (payload ++ behind)) stop n := by
  obtain ⟨f, hformat, hfull⟩ := h.full
  intro hstops
  generalize hrest : payload ++ behind = rest at hstops
  cases hstops with
  | finish => exact h.not_finish rfl
  | container n rest => exact h.not_container rfl
  | truncated known short =>
    obtain rfl := Option.some.inj (hformat.symm.trans known)
    rw [← hrest, Format.size_append hfull, List.length_append] at short
    omega
  | unknown _ unknown => rw [hformat] at unknown; cases unknown

/-- Four bytes are the written form of a number. -/
theorem exists_eq_littleEndian {bytes : List UInt8} (h : bytes.length = 4) :
    ∃ n : UInt32, bytes = littleEndian 4 n.toNat := by
  have hlt : ofLittleEndian bytes < UInt32.size := ofLittleEndian_lt_capacity h
  refine ⟨UInt32.ofNat (ofLittleEndian bytes), ?_⟩
  rw [UInt32.toNat_ofNat_of_lt' hlt, ← h, littleEndian_ofLittleEndian]

/-- **Any bytes begin with a whole record, or with what stops a run.** -/
theorem whole_or_stops (bytes : List UInt8) :
    (∃ tag payload rest, Whole tag payload ∧ bytes = tag :: (payload ++ rest))
      ∨ ∃ stop n, Stops bytes stop n := by
  cases bytes with
  | nil => exact .inr ⟨_, _, .atEnd⟩
  | cons tag rest =>
    cases hformat : Tag.format? tag with
    | none =>
      by_cases hfinish : tag = Tag.finish
      · subst hfinish
        exact .inr ⟨_, _, .finish rest⟩
      · exact .inr ⟨_, _, .unknown rest hformat hfinish⟩
    | some f =>
      by_cases hsize : f.size rest ≤ rest.length
      · obtain ⟨payload, behind, rfl, hfull⟩ := Format.exists_full hsize
        by_cases hcontainer : tag = Tag.containerItems
        · subst hcontainer
          obtain rfl : Format.bytes 4 = f := Option.some.inj hformat
          obtain ⟨n, rfl⟩ := exists_eq_littleEndian hfull.symm
          exact .inr ⟨_, _, .container n behind⟩
        · exact .inl ⟨tag, payload, behind, ⟨hcontainer, f, hformat, hfull⟩, rfl⟩
      · exact .inr ⟨_, _, .truncated hformat (Nat.lt_of_not_le hsize)⟩

/-- **Any bytes are a run of whole records and what stops it.** -/
theorem exists_run (bytes : List UInt8) : ∃ run records rest stop n,
    bytes = run ++ rest ∧ Run run records ∧ Stops rest stop n := by
  -- on the number of bytes: behind a whole record are fewer of them
  induction hlength : bytes.length using Nat.strongRecOn generalizing bytes with
  | ind length ih =>
    subst hlength
    rcases whole_or_stops bytes with ⟨tag, payload, behind, hwhole, rfl⟩ | ⟨stop, n, hstops⟩
    · have hshorter : behind.length < (tag :: payload ++ behind).length := by
        rw [List.length_append, List.length_cons]
        omega
      obtain ⟨run, records, rest, stop, n, rfl, hrun, hstops⟩ := ih _ hshorter behind rfl
      exact ⟨_, _, rest, stop, n, by simp, .cons hwhole hrun, hstops⟩
    · exact ⟨[], [], bytes, stop, n, rfl, .nil, hstops⟩

/-- **No longer run stands in front.** -/
theorem Run.length_le_of_stops {run run' rest rest' : List UInt8} {records records' : List Record}
    {stop : RecordsEnd} {n : Nat} (h : Run run records) (h' : Run run' records')
    (hstops : Stops rest stop n) (hsame : run ++ rest = run' ++ rest') : run'.length ≤ run.length := by
  induction h' generalizing run records with
  | nil => exact Nat.zero_le _
  | @cons tag payload bytes records' head tail ih =>
    rw [List.cons_append, List.append_assoc] at hsame
    cases h with
    | nil =>
      rw [show rest = _ from hsame] at hstops
      exact absurd hstops (head.not_stops _)
    | cons first behind =>
      -- both runs begin with the same record
      rw [List.cons_append, List.append_assoc] at hsame
      obtain ⟨rfl, hbody⟩ := List.cons.inj hsame
      obtain ⟨rfl, hbehind⟩ := first.unique head hbody
      have hle := ih behind hbehind
      simp only [List.length_cons, List.length_append]
      omega

/-- A run is one of records that say what they are. -/
theorem Run.text {run : List UInt8} {records : List Record} (h : Run run records) :
    RecordsText run records := by
  induction h with
  | nil => exact .nil
  | cons head _ ih => exact .cons head.says_record ih

end Record

/-! ## §4. Reading. -/

namespace Item

open Record (Run Stops Whole)

variable (types : Catalogue) (i : Item)

/-- **What stops a run stops the reader,** and leaves the item as it is. -/
theorem decodeRecordsFuel_of_stops {bytes : List UInt8} {stop : RecordsEnd} {n : Nat}
    (h : Stops bytes stop n) (fuel position : Nat) :
    i.decodeRecordsFuel types (fuel + 1) ⟨position, bytes⟩
      = (stop, i, ⟨position + n, bytes.drop n⟩) := by
  rw [decodeRecordsFuel]
  cases h with
  | atEnd => rfl
  | finish rest =>
    simp only [Cursor.u8?_cons, if_true]
    rfl
  | container n rest =>
    have hpayload : Record.payload? Tag.containerItems ⟨position + 1, littleEndian 4 n.toNat ++ rest⟩
        = some (some (.container n, ⟨position + 1 + 4, rest⟩)) := by
      show some (Option.map _ (Cursor.u32? _)) = _
      rw [Cursor.u32?_littleEndian]
      rfl
    simp only [Cursor.u8?_cons, hpayload]
    rw [if_neg (by decide)]
    simp
  | @truncated tag f rest known short =>
    have hpayload : Record.payload? tag ⟨position + 1, rest⟩ = some none := by
      rw [Record.payload?_eq, known, Option.map_some, Cursor.said?_eq]
      dsimp only
      rw [if_neg (Nat.not_le_of_lt short)]
    have hfinish : tag ≠ Tag.finish := by
      rintro rfl
      cases known
    simp only [Cursor.u8?_cons, if_neg hfinish, hpayload]
    rfl
  | @unknown tag rest unknown not_finish =>
    have hpayload : Record.payload? tag ⟨position + 1, rest⟩ = none := by
      rw [Record.payload?_eq, unknown, Option.map_none]
    simp only [Cursor.u8?_cons, if_neg not_finish, hpayload]
    rfl

/-- **Records read into an item:** those of the run change it in their order. -/
theorem decodeRecords_of_run {run rest : List UInt8} {records : List Record} {stop : RecordsEnd}
    {n : Nat} (h : Run run records) (hstops : Stops rest stop n) (position : Nat) :
    i.decodeRecords types ⟨position, run ++ rest⟩
      = (stop, records.foldl (applyRecord types) i, ⟨position + run.length + n, rest.drop n⟩) := by
  obtain ⟨fuel, hread⟩ := i.decodeRecords_of_text types h.text position rest
  rw [hread, decodeRecordsFuel_of_stops types _ hstops]

/-- **What stands behind a run** is read into what the run gave. -/
theorem decodeRecords_append {run : List UInt8} {records : List Record} (h : Run run records)
    (more : List UInt8) (position : Nat) : i.decodeRecords types ⟨position, run ++ more⟩
      = (records.foldl (applyRecord types) i).decodeRecords types ⟨position + run.length, more⟩ := by
  -- the run in front and the one behind it are one run, with one stop
  obtain ⟨run', records', rest, stop, n, rfl, hrun, hstops⟩ := Record.exists_run more
  rw [← List.append_assoc, decodeRecords_of_run types i (h.append hrun) hstops,
    decodeRecords_of_run types _ hrun hstops, List.foldl_append, List.length_append,
    ← Nat.add_assoc position]

/-- **Records are read into an item up to the first thing that is none.**  Take any bytes behind a cursor.
    They are a run of whole records and what stops it, and no longer run of whole records stands in front.
    The reader ends as the stop says, with the cursor as far behind the run as it says, and the item is
    changed by exactly the records of the run, in their order.

    When bytes stand behind a run, the run alone is read whole, and reading all is reading those bytes,
    from where the run ends, into the item that it gave. -/
theorem decodeRecords_stops :
    (∀ c : Cursor, ∃ run records rest stop n, c.rest = run ++ rest ∧ Run run records
      ∧ Stops rest stop n
      ∧ (∀ run' records' rest', Run run' records' → c.rest = run' ++ rest' →
          run'.length ≤ run.length)
      ∧ i.decodeRecords types c
        = (stop, records.foldl (applyRecord types) i, ⟨c.position + run.length + n, rest.drop n⟩))
    ∧ ∀ (position : Nat) (run more : List UInt8) (records : List Record), Run run records →
      ∃ j, i.decodeRecords types ⟨position, run⟩ = (.complete, j, ⟨position + run.length, []⟩)
        ∧ i.decodeRecords types ⟨position, run ++ more⟩
          = j.decodeRecords types ⟨position + run.length, more⟩ := by
  constructor
  · rintro ⟨position, bytes⟩
    obtain ⟨run, records, rest, stop, n, rfl, hrun, hstops⟩ := Record.exists_run bytes
    exact ⟨run, records, rest, stop, n, rfl, hrun, hstops,
      fun run' records' rest' hrun' hsame => hrun.length_le_of_stops hrun' hstops hsame,
      i.decodeRecords_of_run types hrun hstops position⟩
  · intro position run more records hrun
    have hread := i.decodeRecords_of_run types hrun .atEnd position
    rw [List.append_nil] at hread
    exact ⟨_, hread, i.decodeRecords_append types hrun more position⟩

/-- A count, and then a text of five bytes of which one is there: the count is kept, and the cursor stands
    behind the tag of the text. -/
theorem decodeRecords_stops_short :
    let i : Item := ⟨7, 0, .empty⟩
    let j : Item := ⟨7, 9, .empty⟩
    Run [Tag.count, 9] [.count 9]
      ∧ i.decodeRecords .empty ⟨0, [Tag.count, 9] ++ [Tag.text, 5, 0, 65]⟩
        = j.decodeRecords .empty ⟨2, [Tag.text, 5, 0, 65]⟩
      ∧ j.decodeRecords .empty ⟨2, [Tag.text, 5, 0, 65]⟩
        = (.failed (.truncated Tag.text), j, ⟨3, [5, 0, 65]⟩) := by
  intro i j
  have hcount : Whole Tag.count [9] := ⟨by decide, .bytes 1, rfl, rfl⟩
  have hrun : Run [Tag.count, 9] [.count 9] := .cons hcount .nil
  obtain ⟨k, hread, hall⟩ :=
    (decodeRecords_stops .empty i).2 0 [Tag.count, 9] [Tag.text, 5, 0, 65] _ hrun
  obtain rfl : j = k := congrArg (fun answer => answer.2.1) (show _ = _ from hread)
  exact ⟨hrun, hall, by rfl⟩

end Item

end Realm
