/-
  Realm.Proofs.Disk — what a path leads to, and what a buffered writer hands over.

  A file is written in pieces: what the writer was given stands partly in the file and partly in the
  writer's buffer.  The two together, in this order, are everything that was written; when and how much
  the writer hands over shows nowhere else.

  Main statements:
  * `Holds.writeAt_end` — bytes put down at the end of a file follow what it held;
  * `Written.append` — a writer appends to what was written, however it hands it over;
  * `Written.flush` — a flushed writer leaves all of it in the file.
-/
import Realm.Disk

namespace Realm

namespace Disk

variable {d d' : Disk} {path : String} {bytes : Array UInt8}

/-! ## §1. Paths lead through folders alone. -/

theorem isFolder_congr (h : d'.folders = d.folders) (p : Place) : d'.isFolder p = d.isFolder p := by
  rw [isFolder, isFolder, h]

theorem follow?_congr (h : d'.folders = d.folders) (p : Place) (parts : List String) :
    d'.follow? p parts = d.follow? p parts := by
  induction parts generalizing p with
  | nil => rfl
  | cons part rest ih =>
    rw [follow?, follow?, isFolder_congr h, ih]

theorem place?_congr (h : d'.folders = d.folders) (path : String) :
    d'.place? path = d.place? path := by
  unfold place?
  rw [follow?_congr h]

/-- Two disks with the same folders have room for files at the same places. -/
theorem filePlace?_congr (h : d'.folders = d.folders) (path : String) :
    d'.filePlace? path = d.filePlace? path := by
  unfold filePlace?
  rw [place?_congr h]
  simp only [isFolder_congr h]

theorem folders_write (d : Disk) (path : String) (bytes : Array UInt8) :
    (d.write path bytes).folders = d.folders := by
  unfold write
  cases d.filePlace? path <;> rfl

theorem folders_writeAt (d : Disk) (path : String) (offset : Nat) (bytes : Array UInt8) :
    (d.writeAt path offset bytes).folders = d.folders := by
  unfold writeAt
  split
  · rfl
  · exact folders_write d path _

theorem folders_create? {path : String} (h : d.create? path = some d') : d'.folders = d.folders := by
  obtain ⟨p, -, rfl⟩ := Option.map_eq_some_iff.mp h
  rfl

/-! ## §2. Files and what they hold. -/

/-- The one spelling under which the file at a path stands, or would stand. -/
def fileKey? (d : Disk) (path : String) : Option String := (d.filePlace? path).map Place.spelling

/-- **A path leads to a file that holds these bytes.** -/
def Holds (d : Disk) (path : String) (bytes : Array UInt8) : Prop :=
  ∃ key, d.fileKey? path = some key ∧ d.files[key]? = some bytes

theorem fileKey?_congr (h : d'.folders = d.folders) (path : String) :
    d'.fileKey? path = d.fileKey? path := by
  unfold fileKey?
  rw [filePlace?_congr h]

/-- Where a file can be made, it has a key. -/
theorem isSome_fileKey? (h : (d.create? path).isSome) : (d.fileKey? path).isSome := by
  rw [create?, Option.isSome_map] at h
  rw [fileKey?, Option.isSome_map, h]

/-- A fresh disk has room for a file of a plain name. -/
theorem isSome_create?_empty : (Disk.empty.create? "w").isSome := by
  -- a name without slashes is one part
  have hparts : Path.parts "w" = ["w"] := by
    unfold Path.parts String.splitOn
    rw [if_neg (by decide), String.splitOnAux, if_neg (by decide), if_neg (by decide),
      String.splitOnAux, if_pos (by decide)]
    rfl
  unfold create? filePlace? place?
  rw [hparts]
  decide

/-- On a disk without folders no path leads through one. -/
theorem place?_in_missing_folder (h : d.folders = Disk.empty.folders) :
    d.place? "nodir/f" = none := by
  have hparts : Path.parts "nodir/f" = ["nodir", "f"] := by
    unfold Path.parts String.splitOn
    rw [if_neg (by decide)]
    -- the characters before the slash, the slash, the one behind it, and the end
    iterate 5 rw [String.splitOnAux, if_neg (by decide), if_neg (by decide)]
    rw [String.splitOnAux, if_neg (by decide), if_pos (by decide), if_pos (by decide)]
    rw [String.splitOnAux, if_neg (by decide), if_neg (by decide)]
    rw [String.splitOnAux, if_pos (by decide)]
    rfl
  rw [place?_congr h]
  unfold place?
  rw [hparts]
  rfl

theorem create?_in_missing_folder (h : d.folders = Disk.empty.folders) :
    d.create? "nodir/f" = none := by
  rw [create?, filePlace?, place?_in_missing_folder h]
  rfl

theorem lookup_in_missing_folder (h : d.folders = Disk.empty.folders) :
    d.lookup "nodir/f" = .missing := by
  rw [Disk.lookup, place?_in_missing_folder h]

/-- What is at a path is found there. -/
theorem Holds.lookup (h : d.Holds path bytes) : d.lookup path = .file bytes := by
  obtain ⟨key, hkey, hfile⟩ := h
  obtain ⟨p, hp, rfl⟩ := Option.map_eq_some_iff.mp hkey
  obtain ⟨hplace, _⟩ := Option.filter_eq_some_iff.mp hp
  unfold Disk.lookup
  simp only [hplace, hfile]

theorem Holds.read? (h : d.Holds path bytes) : d.read? path = some bytes := by
  simp only [Disk.read?, h.lookup]

/-- A file that can be made is empty. -/
theorem Holds.create? (h : (d.fileKey? path).isSome) :
    ∃ d', d.create? path = some d' ∧ d'.folders = d.folders ∧ d'.Holds path #[] := by
  obtain ⟨key, hkey⟩ := Option.isSome_iff_exists.mp h
  obtain ⟨p, hp, rfl⟩ := Option.map_eq_some_iff.mp hkey
  refine ⟨{ d with files := d.files.insert p.spelling #[] }, ?_, rfl, p.spelling, ?_, ?_⟩
  · rw [Disk.create?, hp]
    rfl
  · rw [fileKey?_congr (by rfl : _ = d.folders) path, hkey]
  · exact Std.ExtTreeMap.getElem?_insert_self

theorem Holds.write {new : Array UInt8} (h : d.Holds path bytes) :
    (d.write path new).Holds path new := by
  obtain ⟨key, hkey, _⟩ := h
  refine ⟨key, by rw [fileKey?_congr (folders_write d path new), hkey], ?_⟩
  obtain ⟨p, hp, rfl⟩ := Option.map_eq_some_iff.mp hkey
  simp only [Disk.write, hp]
  exact Std.ExtTreeMap.getElem?_insert_self

/-- Any bytes can stand in a file. -/
theorem exists_lookup_eq (bytes : Array UInt8) : ∃ d : Disk, d.lookup "w" = .file bytes := by
  obtain ⟨d, -, -, hempty⟩ := Holds.create? (isSome_fileKey? isSome_create?_empty)
  exact ⟨d.write "w" bytes, hempty.write.lookup⟩

/-- Writing elsewhere leaves a file as it was. -/
theorem Holds.write_other {other : String} {new : Array UInt8} (h : d.Holds path bytes)
    (hne : d.fileKey? other ≠ d.fileKey? path) : (d.write other new).Holds path bytes := by
  obtain ⟨key, hkey, hfile⟩ := h
  refine ⟨key, by rw [fileKey?_congr (folders_write d other new), hkey], ?_⟩
  unfold Disk.write
  cases hp : d.filePlace? other with
  | none => exact hfile
  | some p =>
    have hkeys : p.spelling ≠ key := by
      rintro rfl
      rw [hkey, fileKey?, hp] at hne
      exact hne rfl
    show (d.files.insert p.spelling new)[key]? = some bytes
    rw [Std.ExtTreeMap.getElem?_insert, if_neg (by simpa using hkeys)]
    exact hfile

/-! ### Bytes at the end of a file -/

theorem overlay_end (file bytes : Array UInt8) : overlay file file.size bytes = file ++ bytes := by
  have hpad : file ++ Array.replicate (file.size - file.size) 0 = file := by simp
  have hbehind : file.extract (file.size + bytes.size) file.size = #[] := by
    rw [Array.extract_empty_of_stop_le_start (Nat.le_add_right _ _)]
  show (file ++ Array.replicate (file.size - file.size) 0).extract 0 file.size ++ bytes
    ++ (file ++ Array.replicate (file.size - file.size) 0).extract (file.size + bytes.size) _ = _
  rw [hpad, hbehind, Array.extract_size, Array.append_empty]

/-- **Bytes put down at the end of a file** follow what it held. -/
theorem Holds.writeAt_end {file : Array UInt8} (h : d.Holds path file) (bytes : Array UInt8) :
    (d.writeAt path file.size bytes).Holds path (file ++ bytes) := by
  unfold writeAt
  by_cases hempty : bytes.isEmpty
  · rw [if_pos hempty, Array.isEmpty_iff.mp hempty, Array.append_empty]
    exact h
  · rw [if_neg hempty, h.read?, Option.getD_some, overlay_end]
    exact h.write

theorem Holds.writeAt_other {other : String} {offset : Nat} {new : Array UInt8}
    (h : d.Holds path bytes) (hne : d.fileKey? other ≠ d.fileKey? path) :
    (d.writeAt other offset new).Holds path bytes := by
  unfold writeAt
  by_cases hempty : new.isEmpty
  · rw [if_pos hempty]
    exact h
  · rw [if_neg hempty]
    exact h.write_other hne

end Disk

namespace Writer

variable {w : Writer} {d : Disk} {bytes : Array UInt8}

/-! ## §3. What a writer was given. -/

/-- A writer makes no folder. -/
theorem folders_append (w : Writer) (d : Disk) (more : Array UInt8) :
    (w.append d more).2.folders = d.folders := by
  unfold append flush
  grind [Disk.folders_writeAt]

/-- **What was written so far:** the writer's file holds the first part of it, up to where the writer
    stands, and its buffer the rest. -/
def Written (w : Writer) (d : Disk) (bytes : Array UInt8) : Prop :=
  ∃ file, d.Holds w.path file ∧ file.size = w.offset ∧ file ++ w.buffer = bytes

/-- A new writer on an empty file was given nothing. -/
theorem Written.start {path : String} (h : d.Holds path #[]) :
    ({ path := path } : Writer).Written d #[] :=
  ⟨#[], h, rfl, rfl⟩

/-- **A flushed writer** leaves everything in its file. -/
theorem Written.flush (h : w.Written d bytes) :
    (w.flush d).2.Holds w.path bytes ∧ (w.flush d).1.Written (w.flush d).2 bytes := by
  obtain ⟨file, hfile, hsize, rfl⟩ := h
  have hhand : (d.writeAt w.path w.offset w.buffer).Holds w.path (file ++ w.buffer) := by
    rw [← hsize]
    exact hfile.writeAt_end w.buffer
  refine ⟨hhand, file ++ w.buffer, hhand, ?_, ?_⟩
  · rw [Array.size_append, hsize]
    rfl
  · exact Array.append_empty

/-- Bytes that wait in the buffer were written. -/
theorem Written.buffered (h : w.Written d bytes) (more : Array UInt8) :
    ({ w with buffer := w.buffer ++ more } : Writer).Written d (bytes ++ more) := by
  obtain ⟨file, hfile, hsize, rfl⟩ := h
  exact ⟨file, hfile, hsize, (Array.append_assoc).symm⟩

/-- Bytes that go past an empty buffer were written. -/
theorem Written.direct (h : w.Written d bytes) (hempty : w.buffer = #[]) (more : Array UInt8) :
    ({ w with offset := w.offset + more.size } : Writer).Written (d.writeAt w.path w.offset more)
      (bytes ++ more) := by
  obtain ⟨file, hfile, hsize, rfl⟩ := h
  refine ⟨file ++ more, ?_, ?_, ?_⟩
  · rw [← hsize]
    exact hfile.writeAt_end more
  · rw [Array.size_append, hsize]
  · show file ++ more ++ w.buffer = file ++ w.buffer ++ more
    rw [hempty, Array.append_empty, Array.append_empty]

/-- **A writer appends to what was written,** whether the bytes wait in the buffer, push out what waits
    there, or go straight to the file. -/
theorem Written.append (h : w.Written d bytes) (more : Array UInt8) :
    (w.append d more).1.Written (w.append d more).2 (bytes ++ more)
      ∧ (w.append d more).1.path = w.path := by
  -- once there is room, the bytes go into the buffer, or past it when they would fill it
  have hstore : ∀ (w' : Writer) (d' : Disk), w'.Written d' bytes → w'.path = w.path →
      (capacity ≤ more.size → w'.buffer = #[]) →
      let stored := if capacity ≤ more.size then
          ({ w' with offset := w'.offset + more.size }, d'.writeAt w'.path w'.offset more)
        else ({ w' with buffer := w'.buffer ++ more }, d')
      stored.1.Written stored.2 (bytes ++ more) ∧ stored.1.path = w.path := by
    intro w' d' hw' hpath hempty
    by_cases hlarge : capacity ≤ more.size
    · simp only [if_pos hlarge]
      exact ⟨hw'.direct (hempty hlarge) more, hpath⟩
    · simp only [if_neg hlarge]
      exact ⟨hw'.buffered more, hpath⟩
  unfold Writer.append
  by_cases hfits : more.size < capacity - w.buffer.size
  · rw [if_pos hfits]
    exact ⟨h.buffered more, rfl⟩
  rw [if_neg hfits]
  by_cases hover : capacity - w.buffer.size < more.size
  · rw [if_pos hover]
    exact hstore _ _ h.flush.2 rfl fun _ => rfl
  · rw [if_neg hover]
    refine hstore w d h rfl fun hlarge => Array.eq_empty_of_size_eq_zero ?_
    have hcapacity : 0 < capacity := by decide
    omega

end Writer

end Realm
