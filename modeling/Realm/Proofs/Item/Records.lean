/-
  Realm.Proofs.Item.Records — the records that an item's bytes spell.

  An item is written as a run of records, each there only when it has something to say.  `RecordsText`
  relates the bytes of such a run to its records, so that reading is an induction over the run and the
  records of an item are read off piece by piece.

  Main statements:
  * `decodeRecords_of_text` — where the reader stands behind a run of records;
  * `decodeRecords_of_finished` — a run of records in front of a zero tag is read as it was written;
  * `decode_encode` — an item's bytes are read whole, and give the item that its records make.
-/
import Realm.Item.Codec
import Realm.Proofs.Blob

namespace Realm

/-! ## §1. One record. -/

namespace Record

/-- **A tag and its payload that say a record:** whatever stands behind them, reading takes exactly the
    payload.  The zero tag and the number of items inside end a run and say none. -/
structure Says (tag : UInt8) (payload : List UInt8) (r : Record) : Prop where
  not_finish : tag ≠ Tag.finish
  not_container : ∀ n, r ≠ .container n
  read : ∀ (position : Nat) (rest : List UInt8),
    payload? tag ⟨position, payload ++ rest⟩ = some (some (r, ⟨position + payload.length, rest⟩))

/-- A tag whose payload is one field says the record of that field. -/
theorem Says.field {α : Type} {tag : UInt8} {payload : List UInt8}
    {read : Cursor → Option (α × Cursor)} {record : α → Record} {value : α}
    (hfinish : tag ≠ Tag.finish) (hcontainer : ∀ n, record value ≠ .container n)
    (htag : ∀ c, payload? tag c = some ((read c).map fun e => (record e.1, e.2)))
    (hread : ∀ (position : Nat) (rest : List UInt8),
      read ⟨position, payload ++ rest⟩ = some (value, ⟨position + payload.length, rest⟩)) :
    Says tag payload (record value) where
  not_finish := hfinish
  not_container := hcontainer
  read position rest := by
    rw [htag, hread, Option.map_some]

theorem says_count (n : UInt8) : Says Tag.count [n] (.count n) :=
  .field (by decide) nofun (fun _ => rfl) fun position rest => Cursor.u8?_cons position rest n

theorem says_charges (n : UInt16) : Says Tag.charges (littleEndian 2 n.toNat) (.charges n) :=
  .field (by decide) nofun (fun _ => rfl) fun position rest => Cursor.u16?_littleEndian position rest n

theorem says_actionId (n : UInt16) : Says Tag.actionId (littleEndian 2 n.toNat) (.actionId n) :=
  .field (by decide) nofun (fun _ => rfl) fun position rest => Cursor.u16?_littleEndian position rest n

theorem says_writtenDate (n : UInt32) :
    Says Tag.writtenDate (littleEndian 4 n.toNat) (.writtenDate n) :=
  .field (by decide) nofun (fun _ => rfl) fun position rest => Cursor.u32?_littleEndian position rest n

theorem says_duration (n : Int32) :
    Says Tag.duration (littleEndian 4 n.toUInt32.toNat) (.duration n) :=
  .field (by decide) nofun (fun _ => rfl) fun position rest => Cursor.i32?_littleEndian position rest n

theorem says_decayState (n : UInt8) : Says Tag.decayState [n] (.decayState n) :=
  .field (by decide) nofun (fun _ => rfl) fun position rest => Cursor.u8?_cons position rest n

/-! Texts come back shortened to what their length can say. -/

theorem says_text (s : String) :
    Says Tag.text (encodeShortText s) (.text (Cursor.shortened s)) :=
  .field (by decide) nofun (fun _ => rfl)
    fun position rest => Cursor.shortText?_encodeShortText position rest s

theorem says_writer (s : String) :
    Says Tag.writer (encodeShortText s) (.writer (Cursor.shortened s)) :=
  .field (by decide) nofun (fun _ => rfl)
    fun position rest => Cursor.shortText?_encodeShortText position rest s

theorem says_description (s : String) :
    Says Tag.description (encodeShortText s) (.description (Cursor.shortened s)) :=
  .field (by decide) nofun (fun _ => rfl)
    fun position rest => Cursor.shortText?_encodeShortText position rest s

/-- **One record is read in one step,** and the run goes on behind it. -/
theorem Says.step {tag : UInt8} {payload : List UInt8} {r : Record} (h : Says tag payload r)
    (types : Catalogue) (i : Item) (fuel position : Nat) (rest : List UInt8) :
    i.decodeRecordsFuel types (fuel + 1) ⟨position, tag :: (payload ++ rest)⟩
      = (i.applyRecord types r).decodeRecordsFuel types fuel
          ⟨position + 1 + payload.length, rest⟩ := by
  have hread := h.read (position + 1) rest
  rw [Item.decodeRecordsFuel]
  simp only [Cursor.u8?_cons, if_neg h.not_finish, hread]
  cases r with
  | container n => exact absurd rfl (h.not_container n)
  | _ => rfl

end Record

/-! ## §2. Runs of records. -/

/-- **A run of records** and what its records say. -/
inductive RecordsText : List UInt8 → List Record → Prop
  | nil : RecordsText [] []
  | cons {tag : UInt8} {payload bytes : List UInt8} {r : Record} {records : List Record}
      (head : Record.Says tag payload r) (tail : RecordsText bytes records) :
      RecordsText (tag :: (payload ++ bytes)) (r :: records)

/-- One run behind another is a run. -/
theorem RecordsText.append {bytes more : List UInt8} {records others : List Record}
    (h : RecordsText bytes records) (hmore : RecordsText more others) :
    RecordsText (bytes ++ more) (records ++ others) := by
  induction h with
  | nil => exact hmore
  | cons head _ ih =>
    rw [List.cons_append, List.append_assoc]
    exact .cons head ih

/-- A record, when there is something to say. -/
def recordWhen (needed : Bool) (r : Record) : List Record := if needed then [r] else []

theorem RecordsText.when {tag : UInt8} {payload : List UInt8} {r : Record}
    (h : Record.Says tag payload r) (needed : Bool) :
    RecordsText (taggedWhen needed tag payload) (recordWhen needed r) := by
  cases needed with
  | false => exact .nil
  | true =>
    show RecordsText (tag :: payload) [r]
    rw [← List.append_nil payload]
    exact .cons h .nil

/-- Every record takes at least the byte of its tag. -/
theorem RecordsText.length_le {bytes : List UInt8} {records : List Record}
    (h : RecordsText bytes records) : records.length ≤ bytes.length := by
  induction h with
  | nil => exact Nat.le_refl 0
  | cons head tail ih =>
    simp only [List.length_cons, List.length_append]
    omega

/-- **A run of records is read record by record,** and the reading goes on behind it. -/
theorem RecordsText.steps {bytes : List UInt8} {records : List Record} (h : RecordsText bytes records)
    (types : Catalogue) (fuel : Nat) (rest : List UInt8) :
    ∀ (i : Item) (position : Nat),
      i.decodeRecordsFuel types (fuel + records.length) ⟨position, bytes ++ rest⟩
        = (records.foldl (Item.applyRecord types) i).decodeRecordsFuel types fuel
            ⟨position + bytes.length, rest⟩ := by
  induction h with
  | nil => exact fun _ _ => rfl
  | @cons tag payload bytes r records head tail ih =>
    intro i position
    rw [List.length_cons, ← Nat.add_assoc, List.cons_append, List.append_assoc, head.step, ih,
      List.foldl_cons, List.length_cons, List.length_append]
    congr 2
    omega

namespace Item

variable (types : Catalogue) (i : Item) {bytes : List UInt8} {records : List Record}

/-- **Behind a run of records** the reader stands with those records read, and has fuel left. -/
theorem decodeRecords_of_text (h : RecordsText bytes records) (position : Nat) (rest : List UInt8) :
    ∃ fuel, i.decodeRecords types ⟨position, bytes ++ rest⟩
      = (records.foldl (applyRecord types) i).decodeRecordsFuel types (fuel + 1)
          ⟨position + bytes.length, rest⟩ := by
  have hle := h.length_le
  refine ⟨bytes.length - records.length + rest.length, ?_⟩
  have hfuel : (Cursor.mk position (bytes ++ rest)).remaining + 1
      = bytes.length - records.length + rest.length + 1 + records.length := by
    rw [Cursor.remaining, List.length_append]
    omega
  rw [decodeRecords, hfuel, h.steps]

/-- **A run of records in front of a zero tag** is read as it was written, up to behind that tag. -/
theorem decodeRecords_of_finished (h : RecordsText bytes records) (position : Nat)
    (rest : List UInt8) : i.decodeRecords types ⟨position, bytes ++ Tag.finish :: rest⟩
      = (.complete, records.foldl (applyRecord types) i,
          ⟨position + (bytes.length + 1), rest⟩) := by
  obtain ⟨fuel, hread⟩ := decodeRecords_of_text types i h position (Tag.finish :: rest)
  rw [hread, decodeRecordsFuel]
  simp only [Cursor.u8?_cons, if_true, Nat.add_assoc]

end Item

/-! ## §3. Items. -/

namespace Item

variable (c : Catalogue) (i : Item)

/-- **The records that an item is written as.** -/
def records : List Record :=
  let t := i.type c
  let b := i.attributes
  recordWhen (t.stackable || t.holdsLiquid) (.count (i.subtype c).toUInt8)
    ++ recordWhen t.hasCharges (.charges b.charges)
    ++ recordWhen (t.moveable && b.actionId != 0) (.actionId b.actionId)
    ++ recordWhen (b.textOf .text != "") (.text (Cursor.shortened (b.textOf .text)))
    ++ recordWhen (b.writtenDate > 0) (.writtenDate b.writtenDate)
    ++ recordWhen (b.textOf .writer != "") (.writer (Cursor.shortened (b.textOf .writer)))
    ++ recordWhen (b.textOf .description != "")
        (.description (Cursor.shortened (b.textOf .description)))
    ++ recordWhen (b.has .duration) (.duration b.duration)
    ++ recordWhen (b.decaying != .idle) (.decayState b.decaying.toNumber.toUInt32.toUInt8)

theorem recordsText_encodeRecords : RecordsText (i.encodeRecords c) (i.records c) := by
  unfold encodeRecords records
  refine .append (.append (.append (.append (.append (.append (.append (.append ?_ ?_) ?_) ?_) ?_)
    ?_) ?_) ?_) ?_
  · exact .when (Record.says_count _) _
  · exact .when (Record.says_charges _) _
  · exact .when (Record.says_actionId _) _
  · exact .when (Record.says_text _) _
  · exact .when (Record.says_writtenDate _) _
  · exact .when (Record.says_writer _) _
  · exact .when (Record.says_description _) _
  · exact .when (Record.says_duration _) _
  · exact .when (Record.says_decayState _) _

/-- **The item that its bytes give:** a new one of its id, changed by its records in their order. -/
def reread : Item := (i.records c).foldl (applyRecord c) (.new c i.id 0)

/-- **An item's bytes are read whole,** whatever stands behind them, and nothing lies inside it. -/
theorem decode_encode (position : Nat) (rest : List UInt8) :
    decode c ⟨position, i.encode c ++ rest⟩
      = .ok ⟨i.reread c, none, ⟨position + (i.encode c).length, rest⟩⟩ := by
  have hbytes : i.encode c ++ rest
      = littleEndian 2 i.id.toNat ++ (i.encodeRecords c ++ Tag.finish :: rest) := by
    simp [encode]
  have hlength : (i.encode c).length = 2 + ((i.encodeRecords c).length + 1) := by
    simp [encode, Nat.add_comm, Nat.add_left_comm]
  rw [hbytes, hlength]
  simp only [decode, Cursor.u16?_littleEndian,
    decodeRecords_of_finished c _ (i.recordsText_encodeRecords c), reread, Nat.add_assoc]

end Item

end Realm
