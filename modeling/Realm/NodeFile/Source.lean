/-
  Realm.NodeFile.Source — a file being read, directly or through a block cache.

  Both ways offer the same four operations: go to a place, read a byte, name the place of the byte
  read last, and read a stretch.

  Main statements:
  * `readByte_advances` — a byte read moves the place by one and leaves the file as it was;
  * `seek_ok` — going to a place leaves the file as it was.
-/
import Realm.NodeFile.BlockCache

namespace Realm.NodeFile

/-- A file being read. -/
structure Source where
  data : Array UInt8
  position : Nat := 0
  cache : Option BlockCache := none
deriving Repr, DecidableEq

namespace Source

/-! ## §1. Places. -/

/-- Goes to a place.  A cached reader brings in the block there at once. -/
def seek (s : Source) (position : Nat) : Except Error Unit × Source :=
  match s.cache with
  | none => (.ok (), { s with position := position })
  | some c =>
    match c.blockFor s.data position with
    | (.ok _, c') => (.ok (), { s with cache := some c', position := position })
    | (.error e, c') => (.error e, { s with cache := some c' })

/-- The place of the byte read last. -/
def tellLast (s : Source) : Except Error Nat :=
  match s.cache with
  | some ⟨_, _, none⟩ => .error .cacheFailed
  | _ => if s.position = 0 then .error .tellFailed else .ok (s.position - 1)

/-! ## §2. Bytes. -/

/-- The next byte, or nothing at the end. -/
def readByte (s : Source) : Except Error (Option UInt8) × Source :=
  match s.cache with
  | none =>
    match s.data[s.position]? with
    | some b => (.ok (some b), { s with position := s.position + 1 })
    | none => (.ok none, s)
  | some c =>
    if s.data.size ≤ s.position then (.ok none, s)
    else
      match c.blockFor s.data s.position with
      | (.error e, c') => (.error e, { s with cache := some c' })
      | (.ok block, c') =>
        match block.data[s.position - block.base]? with
        | some b => (.ok (some b), { s with cache := some c', position := s.position + 1 })
        | none => (.ok none, { s with cache := some c' })

/-- The rest of a stretch of which `taken` is already there, block by block. -/
def readBlocks (file : Array UInt8) (c : BlockCache) (position missing : Nat) (taken : Array UInt8) :
    Except Error (Array UInt8) × BlockCache :=
  if missing = 0 then (.ok taken, c)
  else
    match c.blockFor file position with
    | (.error e, c') => (.error e, c')
    | (.ok block, c') =>
      let offset := position - block.base
      let available := block.data.size - offset
      if available = 0 then (.error .endOfFile, c')
      else
        let step := min available missing
        readBlocks file c' (position + step) (missing - step)
          (taken ++ block.data.extract offset (offset + step))
termination_by missing
decreasing_by omega

/-- The `length` bytes from a place on. -/
def readAt (s : Source) (position length : Nat) : Except Error (Array UInt8) × Source :=
  match s.cache with
  | none =>
    let s' := { s with position := position }
    let bytes := s.data.extract position (position + length)
    if bytes.size = length then (.ok bytes, { s' with position := position + length })
    else (.error .endOfFile, s')
  | some c =>
    match readBlocks s.data c position length #[] with
    | (.ok bytes, c') => (.ok bytes, { s with cache := some c', position := position + length })
    | (.error e, c') => (.error e, { s with cache := some c' })

/-- The next byte, where the end of the file is an error. -/
def nextByte (s : Source) : Except Error UInt8 × Source :=
  match s.readByte with
  | (.ok (some b), s') => (.ok b, s')
  | (.ok none, s') => (.error .endOfFile, s')
  | (.error e, s') => (.error e, s')

/-! ## §3. What reading leaves alone. -/

/-- **A byte read moves the place by one and leaves the file as it was.** -/
theorem readByte_advances {s s' : Source} {b : UInt8} (h : s.readByte = (.ok (some b), s')) :
    s'.data = s.data ∧ s'.position = s.position + 1 ∧ s.position < s.data.size := by
  unfold readByte at h
  split at h
  · split at h
    · rename_i hb
      simp only [Prod.mk.injEq] at h
      obtain ⟨_, rfl⟩ := h
      exact ⟨rfl, rfl, (Array.getElem?_eq_some_iff.1 hb).1⟩
    · simp at h
  · split at h
    · simp at h
    · rename_i hsize
      split at h
      · simp at h
      · split at h
        · simp only [Prod.mk.injEq] at h
          obtain ⟨_, rfl⟩ := h
          exact ⟨rfl, rfl, by omega⟩
        · simp at h

theorem nextByte_advances {s s' : Source} {b : UInt8} (h : s.nextByte = (.ok b, s')) :
    s'.data = s.data ∧ s'.position = s.position + 1 ∧ s.position < s.data.size := by
  unfold nextByte at h
  split at h
  · rename_i hr
    simp only [Prod.mk.injEq, Except.ok.injEq] at h
    obtain ⟨rfl, rfl⟩ := h
    exact readByte_advances hr
  · simp at h
  · simp at h

/-- **The end of the file leaves the place where it was.** -/
theorem readByte_none {s s' : Source} (h : s.readByte = (.ok none, s')) :
    s'.data = s.data ∧ s'.position = s.position := by
  unfold readByte at h
  split at h
  · split at h
    · simp at h
    · simp only [Prod.mk.injEq] at h; obtain ⟨_, rfl⟩ := h; exact ⟨rfl, rfl⟩
  · split at h
    · simp only [Prod.mk.injEq] at h; obtain ⟨_, rfl⟩ := h; exact ⟨rfl, rfl⟩
    · split at h
      · simp at h
      · split at h
        · simp at h
        · simp only [Prod.mk.injEq] at h; obtain ⟨_, rfl⟩ := h; exact ⟨rfl, rfl⟩

/-- **Going to a place leaves the file as it was.** -/
theorem seek_ok {s s' : Source} {p : Nat} {u : Unit} (h : s.seek p = (.ok u, s')) :
    s'.data = s.data ∧ s'.position = p := by
  unfold seek at h
  split at h
  · simp only [Prod.mk.injEq] at h; obtain ⟨_, rfl⟩ := h; exact ⟨rfl, rfl⟩
  · split at h
    · simp only [Prod.mk.injEq] at h; obtain ⟨_, rfl⟩ := h; exact ⟨rfl, rfl⟩
    · simp at h

/-- The place of the byte read last lies one before the place. -/
theorem tellLast_ok {s : Source} {p : Nat} (h : s.tellLast = .ok p) : p + 1 = s.position := by
  unfold tellLast at h
  split at h
  · simp at h
  · split at h
    · simp at h
    · simp only [Except.ok.injEq] at h; omega

end Source

end Realm.NodeFile
