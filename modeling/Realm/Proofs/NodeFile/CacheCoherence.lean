/-
  Realm.Proofs.NodeFile.CacheCoherence — what the block cache keeps true, and why a reader cannot see it.

  A cache is coherent with a file when every block it keeps holds exactly what the file has there.
  Searching for a block keeps this, and it finds a block for every place up to the end of the file.
  A source that stands at a place with a coherent cache, or with none, then answers every read by the
  file alone.

  Main statements:
  * `blockFor_spec` — a search keeps the cache coherent, and fails only behind the end of the file;
  * `readByte_cons`, `readByte_nil`, `seek_within`, `readAt_within` — what a source answers depends on
    the file and the place alone.
-/
import Realm.NodeFile.Source
import Mathlib.Tactic.Set

namespace Realm.NodeFile

/-! ## §1. Coherent caches. -/

namespace BlockCache

/-- **The invariant of a cache.**  Blocks lie on whole multiples of the block size, hold what the file
    has there, and no two of them start at the same place; the slot used last holds a block. -/
structure Coherent (c : BlockCache) (file : Array UInt8) : Prop where
  blockSize_pos : 0 < c.blockSize
  unit_dvd : blockUnit ∣ c.blockSize
  aligned : ∀ (i : Slot) (b : Block), c.slots[i] = some b → c.blockSize ∣ b.base
  holds : ∀ (i : Slot) (b : Block), c.slots[i] = some b →
    b.data = file.extract b.base (b.base + c.blockSize)
  distinct : ∀ (i j : Slot) (b d : Block), c.slots[i] = some b → c.slots[j] = some d →
    b.base = d.base → i = j
  current_loaded : ∀ i : Slot, c.current = some i → ∃ b, c.slots[i] = some b

variable {c c' : BlockCache} {file : Array UInt8} {position : Nat} {i : Slot}

theorem forFileSize_coherent (fileSize : Nat) (file : Array UInt8) :
    (forFileSize fileSize).Coherent file where
  blockSize_pos := blockSizeFor_pos fileSize
  unit_dvd := Nat.dvd_mul_left _ _
  aligned := by simp [forFileSize]
  holds := by simp [forFileSize]
  distinct := by simp [forFileSize]
  current_loaded := by simp [forFileSize]

theorem alignedBase_le (c : BlockCache) (position : Nat) : c.alignedBase position ≤ position :=
  Nat.sub_le _ _

theorem lt_alignedBase_add (hc : 0 < c.blockSize) (position : Nat) :
    position < c.alignedBase position + c.blockSize := by
  have hmod := Nat.mod_lt position hc
  have hle := Nat.mod_le position c.blockSize
  unfold alignedBase
  omega

theorem dvd_alignedBase (c : BlockCache) (position : Nat) :
    c.blockSize ∣ c.alignedBase position := Nat.dvd_sub_mod position

/-! ### The three places where a block can come from -/

theorem currentCovers_eq_some (h : c.currentCovers position = some i) :
    ∃ b, getElem c.slots i i.isLt = some b ∧ b.base ≤ position
      ∧ position < b.base + c.blockSize := by
  unfold currentCovers at h
  obtain ⟨_, hcov⟩ := Option.filter_eq_some_iff.mp h
  cases hb : c.slots[i] with
  | none => simp [hb] at hcov
  | some b =>
    simp only [hb, Bool.and_eq_true, decide_eq_true_eq] at hcov
    exact ⟨b, rfl, hcov.1, by omega⟩

theorem slotCovering_eq_some (h : c.slotCovering position = some i) :
    ∃ b, getElem c.slots i i.isLt = some b ∧ b.base = c.alignedBase position := by
  unfold slotCovering at h
  have hcov := List.find?_some h
  cases hb : c.slots[i] with
  | none => simp [hb] at hcov
  | some b =>
    simp only [hb, beq_iff_eq] at hcov
    exact ⟨b, rfl, hcov⟩

theorem slotCovering_eq_none (h : c.slotCovering position = none) (i : Slot) (b : Block)
    (hb : getElem c.slots i i.isLt = some b) : b.base ≠ c.alignedBase position := by
  unfold slotCovering at h
  have hno := List.find?_eq_none.mp h i (List.mem_finRange i)
  simpa [hb] using hno

/-- Naming a loaded slot as the one used last keeps a cache coherent. -/
theorem Coherent.use (h : c.Coherent file) {b : Block} (hb : getElem c.slots i i.isLt = some b) :
    ({ c with current := some i } : BlockCache).Coherent file where
  blockSize_pos := h.blockSize_pos
  unit_dvd := h.unit_dvd
  aligned := h.aligned
  holds := h.holds
  distinct := h.distinct
  current_loaded := by
    intro j hj
    obtain rfl := Option.some.inj hj
    exact ⟨b, hb⟩

/-- Forgetting the slot used last keeps a cache coherent. -/
theorem Coherent.forget (h : c.Coherent file) :
    ({ c with current := none } : BlockCache).Coherent file where
  blockSize_pos := h.blockSize_pos
  unit_dvd := h.unit_dvd
  aligned := h.aligned
  holds := h.holds
  distinct := h.distinct
  current_loaded := by simp

/-- **Loading a block** that no slot holds keeps a cache coherent, whichever slot it goes to. -/
theorem Coherent.fill (h : c.Coherent file) (hnone : c.slotCovering position = none) (i : Slot) :
    ({ c with slots := c.slots.set i (some (c.load file (c.alignedBase position))) i.isLt,
              current := some i } : BlockCache).Coherent file where
  blockSize_pos := h.blockSize_pos
  unit_dvd := h.unit_dvd
  aligned := by
    intro j b hb
    rw [Fin.getElem_fin, Vector.getElem_set] at hb
    split at hb
    · obtain rfl := Option.some.inj hb
      exact dvd_alignedBase c position
    · exact h.aligned j b hb
  holds := by
    intro j b hb
    rw [Fin.getElem_fin, Vector.getElem_set] at hb
    split at hb
    · obtain rfl := Option.some.inj hb
      rfl
    · exact h.holds j b hb
  distinct := by
    intro j k b d hb hd hbase
    rw [Fin.getElem_fin, Vector.getElem_set] at hb hd
    -- the new block's base is nobody else's, because no slot covered the place
    split at hb <;> split at hd
    · next hj hk => exact Fin.ext (hj.symm.trans hk)
    · obtain rfl := Option.some.inj hb
      exact absurd hbase.symm (slotCovering_eq_none hnone k d hd)
    · obtain rfl := Option.some.inj hd
      exact absurd hbase (slotCovering_eq_none hnone j b hb)
    · exact h.distinct j k b d hb hd hbase
  current_loaded := by
    intro j hj
    obtain rfl := Option.some.inj hj
    exact ⟨_, by rw [Fin.getElem_fin, Vector.getElem_set_self]⟩

/-- What a search for the block at a place comes to: a block that covers the place, or the failure that
    is kept for places behind the end of the file. -/
inductive Found (c : BlockCache) (file : Array UInt8) (position : Nat) :
    Except Error Block × BlockCache → Prop
  | block (b : Block) (c' : BlockCache) (coherent : c'.Coherent file)
      (blockSize_eq : c'.blockSize = c.blockSize) (settled : c'.current.isSome)
      (base_le : b.base ≤ position) (lt_end : position < b.base + c.blockSize)
      (data_eq : b.data = file.extract b.base (b.base + c.blockSize)) :
      Found c file position (.ok b, c')
  | behind (c' : BlockCache) (coherent : c'.Coherent file)
      (blockSize_eq : c'.blockSize = c.blockSize) (size_lt : file.size < position) :
      Found c file position (.error .cacheFailed, c')

/-- **A search keeps the cache coherent,** finds a block that covers the place, and fails only behind the
    end of the file. -/
theorem blockFor_spec (h : c.Coherent file) (position : Nat) :
    Found c file position (c.blockFor file position) := by
  unfold blockFor
  cases hcur : c.currentCovers position with
  | some i =>
    obtain ⟨b, hb, hle, hlt⟩ := currentCovers_eq_some hcur
    simp only [hb]
    exact .block b _ (h.use hb) rfl rfl hle hlt (h.holds i b hb)
  | none =>
    cases hslot : c.slotCovering position with
    | some i =>
      obtain ⟨b, hb, hbase⟩ := slotCovering_eq_some hslot
      simp only [hb]
      refine .block b _ (h.use hb) rfl rfl ?_ ?_ (h.holds i b hb)
      · rw [hbase]; exact alignedBase_le c position
      · rw [hbase]; exact lt_alignedBase_add h.blockSize_pos position
    | none =>
      have hle := alignedBase_le c position
      have hlt := lt_alignedBase_add h.blockSize_pos position
      have hsize : (c.load file (c.alignedBase position)).data.size
          = min (c.alignedBase position + c.blockSize) file.size - c.alignedBase position := by
        simp [load]
      simp only
      split
      · refine .behind _ h.forget rfl ?_
        omega
      · exact .block _ _ (h.fill hslot _) rfl rfl hle hlt rfl

/-- Up to the end of the file a search always finds its block. -/
theorem blockFor_within (h : c.Coherent file) (hle : position ≤ file.size) :
    ∃ b c', c.blockFor file position = (.ok b, c') ∧ c'.Coherent file ∧ c'.current.isSome
      ∧ b.base ≤ position ∧ position < b.base + c.blockSize
      ∧ b.data = file.extract b.base (b.base + c.blockSize) := by
  have hspec := blockFor_spec h position
  generalize c.blockFor file position = found at hspec ⊢
  cases hspec with
  | block b c' hcoh _ hset hbase hend hdata => exact ⟨b, c', rfl, hcoh, hset, hbase, hend, hdata⟩
  | behind _ _ _ hbehind => omega

end BlockCache

/-! ## §2. Sources that stand at a place. -/

namespace Source

/-- A source without a cache, or with one that is coherent with its file. -/
def Coherent (s : Source) : Prop := ∀ c, s.cache = some c → c.Coherent s.data

/-- The slot used last is known; it is from the first byte read on. -/
def Settled (s : Source) : Prop := ∀ c, s.cache = some c → c.current.isSome

/-- **Where a source stands:** in which file, at which place, with what still before it. -/
structure Stands (s : Source) (data : Array UInt8) (place : Nat) (rest : List UInt8) : Prop where
  data_eq : s.data = data
  position_eq : s.position = place
  coherent : s.Coherent
  rest_eq : data.toList.drop place = rest

variable {s : Source} {data : Array UInt8} {place : Nat} {b : UInt8} {rest : List UInt8}

theorem getElem?_of_drop (h : data.toList.drop place = b :: rest) : data[place]? = some b := by
  have hhead : (data.toList.drop place)[0]? = some b := by rw [h]; rfl
  simpa using hhead

theorem lt_size_of_drop (h : data.toList.drop place = b :: rest) : place < data.size :=
  (Array.getElem?_eq_some_iff.mp (getElem?_of_drop h)).1

theorem size_le_of_drop (h : data.toList.drop place = []) : data.size ≤ place := by
  simpa using List.drop_eq_nil_iff.mp h

theorem drop_succ_of_drop (h : data.toList.drop place = b :: rest) :
    data.toList.drop (place + 1) = rest := by
  rw [← List.drop_drop, h]
  rfl

/-- The byte at a place is found in the block that covers the place. -/
theorem getElem?_block {block : Block} {blockSize : Nat}
    (hdata : block.data = data.extract block.base (block.base + blockSize))
    (hle : block.base ≤ place) (hlt : place < block.base + blockSize) :
    block.data[place - block.base]? = data[place]? := by
  rw [hdata, Array.getElem?_extract]
  have hplace : block.base + (place - block.base) = place := by omega
  rw [hplace]
  by_cases hin : place < data.size
  · rw [if_pos (by omega)]
  · rw [if_neg (by omega), Array.getElem?_eq_none (by omega)]

theorem readByte_cons (h : s.Stands data place (b :: rest)) :
    ∃ s', s.readByte = (.ok (some b), s') ∧ s'.Stands data (place + 1) rest ∧ s'.Settled := by
  obtain ⟨rfl, rfl, hcoh, hrest⟩ := h
  have hbyte := getElem?_of_drop hrest
  have hlt := lt_size_of_drop hrest
  have hnext := drop_succ_of_drop hrest
  unfold readByte
  cases hc : s.cache with
  | none =>
    simp only [hbyte]
    exact ⟨_, rfl, ⟨rfl, rfl, by simp [Coherent], hnext⟩, by simp [Settled]⟩
  | some c =>
    simp only
    rw [if_neg (by omega)]
    obtain ⟨block, c', hfound, hcoh', hset, hle, hend, hdata⟩ :=
      BlockCache.blockFor_within (hcoh c hc) (Nat.le_of_lt hlt)
    simp only [hfound, getElem?_block hdata hle hend, hbyte]
    refine ⟨_, rfl, ⟨rfl, rfl, ?_, hnext⟩, ?_⟩
    · intro d hd
      obtain rfl := Option.some.inj hd
      exact hcoh'
    · intro d hd
      obtain rfl := Option.some.inj hd
      exact hset

theorem readByte_nil (h : s.Stands data place []) :
    s.readByte = (.ok none, s) := by
  obtain ⟨rfl, rfl, _, hrest⟩ := h
  have hsize := size_le_of_drop hrest
  unfold readByte
  cases hc : s.cache with
  | none => simp only [Array.getElem?_eq_none hsize]
  | some c => simp only [if_pos hsize]

theorem nextByte_cons (h : s.Stands data place (b :: rest)) :
    ∃ s', s.nextByte = (.ok b, s') ∧ s'.Stands data (place + 1) rest ∧ s'.Settled := by
  obtain ⟨s', hread, hstands, hset⟩ := readByte_cons h
  exact ⟨s', by rw [nextByte, hread], hstands, hset⟩

theorem nextByte_nil (h : s.Stands data place []) :
    s.nextByte = (.error .endOfFile, s) := by
  rw [nextByte, readByte_nil h]

theorem tellLast_settled (h : s.Stands data (place + 1) rest) (hset : s.Settled) :
    s.tellLast = .ok place := by
  have hpos := h.position_eq
  unfold tellLast
  split
  · next hc => simpa using hset _ hc
  · rw [if_neg (by omega), hpos]
    rfl

/-- **Going to a place** of the file leads there. -/
theorem seek_within (hdata : s.data = data) (hcoh : s.Coherent) (hle : place ≤ data.size) :
    ∃ s', s.seek place = (.ok (), s') ∧ s'.Stands data place (data.toList.drop place) := by
  subst hdata
  unfold seek
  cases hc : s.cache with
  | none => exact ⟨_, rfl, rfl, rfl, by simp [Coherent], rfl⟩
  | some c =>
    obtain ⟨block, c', hfound, hcoh', _⟩ := BlockCache.blockFor_within (hcoh c hc) hle
    simp only [hfound]
    refine ⟨_, rfl, rfl, rfl, ?_, rfl⟩
    intro d hd
    obtain rfl := Option.some.inj hd
    exact hcoh'

/-! ### Stretches -/

/-- A stretch gathered block by block is the file's stretch. -/
theorem readBlocks_within {c : BlockCache} (missing : Nat) (h : c.Coherent data)
    (hle : place + missing ≤ data.size) (taken : Array UInt8) :
    ∃ c', readBlocks data c place missing taken
        = (.ok (taken ++ data.extract place (place + missing)), c') ∧ c'.Coherent data := by
  induction missing using Nat.strongRecOn generalizing c place taken with
  | ind missing ih =>
    unfold readBlocks
    by_cases hzero : missing = 0
    · rw [if_pos hzero]
      subst hzero
      refine ⟨c, ?_, h⟩
      rw [Nat.add_zero, Array.extract_empty_of_stop_le_start (Nat.le_refl _), Array.append_empty]
    rw [if_neg hzero]
    obtain ⟨block, c', hfound, hcoh', _, hbase, hend, hdata⟩ :=
      BlockCache.blockFor_within h (by omega : place ≤ data.size)
    have hsize : block.data.size = min (block.base + c.blockSize) data.size - block.base := by
      rw [hdata, Array.size_extract]
    simp only [hfound]
    rw [if_neg (by omega)]
    -- at least one byte of the block is taken; the rest is a shorter stretch
    set step := min (block.data.size - (place - block.base)) missing with hstep
    have hstep_le : step ≤ missing := Nat.min_le_right _ _
    have hstep_pos : 0 < step := by omega
    obtain ⟨c'', hrun, hcoh''⟩ := ih (missing - step) (by omega) hcoh'
      (by omega : place + step + (missing - step) ≤ data.size)
      (taken ++ block.data.extract (place - block.base) (place - block.base + step))
    refine ⟨c'', ?_, hcoh''⟩
    rw [hrun]
    have hpart : block.data.extract (place - block.base) (place - block.base + step)
        = data.extract place (place + step) := by
      rw [hdata, Array.extract_extract]
      congr 1 <;> omega
    rw [hpart, Array.append_assoc, Array.extract_append_extract]
    congr 4 <;> omega

/-- **Reading a stretch** inside the file gives the file's stretch. -/
theorem readAt_within {length : Nat} (hdata : s.data = data) (hcoh : s.Coherent)
    (hle : place + length ≤ data.size) :
    ∃ s', s.readAt place length = (.ok (data.extract place (place + length)), s')
      ∧ s'.Stands data (place + length) (data.toList.drop (place + length)) := by
  subst hdata
  unfold readAt
  cases hc : s.cache with
  | none =>
    have hsize : (s.data.extract place (place + length)).size = length := by
      rw [Array.size_extract]
      omega
    simp only [if_pos hsize]
    exact ⟨_, rfl, rfl, rfl, by simp [Coherent], rfl⟩
  | some c =>
    obtain ⟨c', hrun, hcoh'⟩ := readBlocks_within length (hcoh c hc) hle #[]
    rw [Array.empty_append] at hrun
    simp only [hrun]
    refine ⟨_, rfl, rfl, rfl, ?_, rfl⟩
    intro d hd
    obtain rfl := Option.some.inj hd
    exact hcoh'

end Source

end Realm.NodeFile
