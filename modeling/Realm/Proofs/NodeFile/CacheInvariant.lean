/-
  Realm.Proofs.NodeFile.CacheInvariant — the cache of a file that is read in any order.

  A cached reader is asked to go to places, for next bytes and for stretches, in any order and any number of
  times, and some of what it is asked fails.  Every request comes down to searches for blocks, and a search
  keeps the cache coherent whether it finds its block or not; so the cache is coherent behind all of them.
  Up to the end of the file no search fails, so a read there gives the file's bytes or meets the end.

  Main statements:
  * `Cached.after`, `Cached.run` — one request and any run of them keep the cache coherent;
  * `readByte_cached`, `readAt_cached` — what reads answer;
  * `cache_invariant` — the invariant behind any run, in full.
-/
import Realm.Proofs.NodeFile.CacheCoherence

namespace Realm.NodeFile

/-! ## §1. Requests. -/

/-- What a reader is asked: to go to a place, for the next byte, or for a stretch from a place on. -/
inductive Request
  | seek (place : Nat)
  | byte
  | stretch (place length : Nat)
deriving Repr, DecidableEq

/-- A search keeps a cache coherent, whatever it comes to. -/
theorem BlockCache.Coherent.blockFor {c : BlockCache} {file : Array UInt8} (h : c.Coherent file)
    (position : Nat) : (c.blockFor file position).2.Coherent file := by
  have hfound := blockFor_spec h position
  generalize c.blockFor file position = found at hfound ⊢
  cases hfound with
  | block b c' coherent => exact coherent
  | behind c' coherent => exact coherent

namespace Source

/-- A file that is read from a place on through a cache with nothing in it yet. -/
def cachedAt (data : Array UInt8) (place : Nat) : Source :=
  { data := data, position := place, cache := some (.forFileSize data.size) }

/-- A source behind a request, whatever the request was answered. -/
def after (s : Source) : Request → Source
  | .seek place => (s.seek place).2
  | .byte => s.readByte.2
  | .stretch place length => (s.readAt place length).2

def run (s : Source) (requests : List Request) : Source := requests.foldl after s

/-- **A source that reads a file through a coherent cache.** -/
structure Cached (s : Source) (data : Array UInt8) : Prop where
  data_eq : s.data = data
  exists_cache : ∃ c, s.cache = some c ∧ c.Coherent data

theorem cached_cachedAt (data : Array UInt8) (place : Nat) : (cachedAt data place).Cached data :=
  ⟨rfl, _, rfl, BlockCache.forFileSize_coherent data.size data⟩

variable {s : Source} {data : Array UInt8} {c : BlockCache} {place : Nat}

/-! ## §2. What requests keep. -/

theorem Cached.seek (h : s.Cached data) (place : Nat) : (s.seek place).2.Cached data := by
  obtain ⟨rfl, c, hc, hcoh⟩ := h
  have hkeeps := hcoh.blockFor place
  unfold Source.seek
  simp only [hc]
  cases hfound : c.blockFor s.data place with
  | mk answer c' =>
    rw [hfound] at hkeeps
    cases answer with
    | error e => exact ⟨rfl, c', rfl, hkeeps⟩
    | ok b => exact ⟨rfl, c', rfl, hkeeps⟩

theorem Cached.readByte (h : s.Cached data) : s.readByte.2.Cached data := by
  obtain ⟨rfl, c, hc, hcoh⟩ := h
  have hkeeps := hcoh.blockFor s.position
  unfold Source.readByte
  simp only [hc]
  split
  · exact ⟨rfl, c, hc, hcoh⟩
  · cases hfound : c.blockFor s.data s.position with
    | mk answer c' =>
      rw [hfound] at hkeeps
      cases answer with
      | error e => exact ⟨rfl, c', rfl, hkeeps⟩
      | ok b =>
        simp only
        split
        · exact ⟨rfl, c', rfl, hkeeps⟩
        · exact ⟨rfl, c', rfl, hkeeps⟩

/-- The blocks of a stretch are searched for one after the other, and each search keeps the cache
    coherent. -/
theorem coherent_readBlocks (missing : Nat) (h : c.Coherent data) (place : Nat)
    (taken : Array UInt8) : (readBlocks data c place missing taken).2.Coherent data := by
  -- on what is still missing, which each block makes less
  induction missing using Nat.strongRecOn generalizing c place taken with
  | ind missing ih =>
    unfold readBlocks
    split
    · exact h
    · have hkeeps := h.blockFor place
      cases hfound : c.blockFor data place with
      | mk answer c' =>
        rw [hfound] at hkeeps
        cases answer with
        | error e => exact hkeeps
        | ok b =>
          simp only
          split
          · exact hkeeps
          · exact ih _ (by omega) hkeeps _ _

theorem Cached.readAt (h : s.Cached data) (place length : Nat) :
    (s.readAt place length).2.Cached data := by
  obtain ⟨rfl, c, hc, hcoh⟩ := h
  have hkeeps := coherent_readBlocks length hcoh place #[]
  unfold Source.readAt
  simp only [hc]
  cases hread : readBlocks s.data c place length #[] with
  | mk answer c' =>
    rw [hread] at hkeeps
    cases answer with
    | error e => exact ⟨rfl, c', rfl, hkeeps⟩
    | ok bytes => exact ⟨rfl, c', rfl, hkeeps⟩

/-- **One request** keeps the cache coherent, whatever it is answered. -/
theorem Cached.after (h : s.Cached data) (r : Request) : (s.after r).Cached data := by
  cases r with
  | seek place => exact h.seek place
  | byte => exact h.readByte
  | stretch place length => exact h.readAt place length

/-- **Any run of requests** keeps the cache coherent. -/
theorem Cached.run (h : s.Cached data) (requests : List Request) : (s.run requests).Cached data := by
  induction requests generalizing s with
  | nil => exact h
  | cons r requests ih => exact ih (h.after r)

/-! ## §3. What reads answer. -/

theorem Cached.coherent (h : s.Cached data) : s.Coherent := by
  obtain ⟨rfl, c, hc, hcoh⟩ := h
  intro d hd
  rw [hc] at hd
  obtain rfl := Option.some.inj hd
  exact hcoh

/-- **The next byte** is the file's, and there is none behind the end; no such read fails. -/
theorem readByte_cached (h : s.Cached data) : s.readByte.1 = .ok data[s.position]? := by
  have hstands : s.Stands data s.position (data.toList.drop s.position) :=
    ⟨h.data_eq, rfl, h.coherent, rfl⟩
  cases hrest : data.toList.drop s.position with
  | nil =>
    rw [hrest] at hstands
    rw [readByte_nil hstands, Array.getElem?_eq_none (size_le_of_drop hrest)]
  | cons b rest =>
    rw [hrest] at hstands
    obtain ⟨s', hread, -⟩ := readByte_cons hstands
    rw [hread, getElem?_of_drop hrest]

/-- A stretch that begins in the file and goes on behind it meets the end. -/
theorem readBlocks_past (missing : Nat) (h : c.Coherent data) (hle : place ≤ data.size)
    (hpast : data.size < place + missing) (taken : Array UInt8) :
    (readBlocks data c place missing taken).1 = .error .endOfFile := by
  -- block by block up to the end of the file, where the last block has nothing left
  induction missing using Nat.strongRecOn generalizing c place taken with
  | ind missing ih =>
    unfold readBlocks
    rw [if_neg (by omega)]
    obtain ⟨b, c', hfound, hcoh', -, hbase, hend, hdata⟩ := BlockCache.blockFor_within h hle
    have hsize : b.data.size = min (b.base + c.blockSize) data.size - b.base := by
      rw [hdata, Array.size_extract]
    simp only [hfound]
    split
    · rfl
    · exact ih _ (by omega) hcoh' (by omega) (by omega) _

/-- **A stretch** that begins in the file is read when it ends there too, and else the end is met. -/
theorem readAt_cached (h : s.Cached data) (hle : place ≤ data.size) (length : Nat) :
    (s.readAt place length).1
      = if place + length ≤ data.size then .ok (data.extract place (place + length))
        else .error .endOfFile := by
  by_cases hin : place + length ≤ data.size
  · obtain ⟨s', hread, -⟩ := readAt_within h.data_eq h.coherent hin
    rw [hread, if_pos hin]
  · obtain ⟨rfl, c, hc, hcoh⟩ := h
    have hpast := readBlocks_past length hcoh hle (by omega) #[]
    rw [if_neg hin]
    unfold Source.readAt
    simp only [hc]
    cases hread : readBlocks s.data c place length #[] with
    | mk answer c' =>
      rw [hread] at hpast
      cases hpast
      rfl

/-- **The invariant of the block cache.**  Read any file through a cache, from any place on, and make any
    requests.  Then the blocks are a whole number of 8192 bytes long, and not empty; each slot that is
    loaded has a base that is a multiple of the block's length, and holds exactly what the file has from
    there to the end of the block or of the file, which is nothing if the base is behind the end; no two
    loaded slots have the same base; and the slot used last, if there is one, is loaded.  The next byte is
    the file's byte at the place, or none behind the end; and whatever begins in the file can be gone to,
    and read unless it goes on behind the end, which is told.  So no read there fails for the cache. -/
theorem cache_invariant (data : Array UInt8) (start : Nat) (requests : List Request) :
    let s := (cachedAt data start).run requests
    s.data = data ∧ ∃ c, s.cache = some c
      ∧ (0 < c.blockSize ∧ 8192 ∣ c.blockSize)
      ∧ (∀ (i : Slot) (b : Block), c.slots.get i = some b → c.blockSize ∣ b.base
          ∧ b.data = data.extract b.base (min (b.base + c.blockSize) data.size)
          ∧ (data.size ≤ b.base → b.data = #[]))
      ∧ (∀ (i j : Slot) (b d : Block), c.slots.get i = some b → c.slots.get j = some d →
          b.base = d.base → i = j)
      ∧ (∀ i : Slot, c.current = some i → (c.slots.get i).isSome)
      ∧ s.readByte.1 = .ok data[s.position]?
      ∧ ∀ place ≤ data.size, (s.seek place).1 = .ok () ∧ ∀ length,
          (s.readAt place length).1
            = if place + length ≤ data.size then .ok (data.extract place (place + length))
              else .error .endOfFile := by
  intro s
  have hcached : s.Cached data := (cached_cachedAt data start).run requests
  obtain ⟨c, hc, hcoh⟩ := hcached.exists_cache
  refine ⟨hcached.data_eq, c, hc, ⟨hcoh.blockSize_pos, hcoh.unit_dvd⟩, fun i b hb => ?_,
    hcoh.distinct, fun i hi => ?_, readByte_cached hcached, fun place hle => ⟨?_, ?_⟩⟩
  · have hholds : b.data = data.extract b.base (min (b.base + c.blockSize) data.size) := by
      rw [hcoh.holds i b hb, Array.extract_eq_extract_right]
      omega
    refine ⟨hcoh.aligned i b hb, hholds, fun hbehind => ?_⟩
    rw [hholds]
    exact Array.extract_empty_of_stop_le_start (by omega)
  · exact Option.isSome_iff_exists.mpr (hcoh.current_loaded i hi)
  · obtain ⟨s', hseek, -⟩ := seek_within hcached.data_eq hcached.coherent hle
    rw [hseek]
  · exact readAt_cached hcached hle

/-- Behind the end of a file a block can begin, and it is empty.  There is no place further inside it, and
    who asks for one leaves no slot as the one used last. -/
example :
    let s := cachedAt #[7, 8] 0
    (s.run [.byte, .seek 8192]).cache
        = some ⟨8192, #v[some ⟨0, #[7, 8]⟩, some ⟨8192, #[]⟩, none], some 1⟩
      ∧ (s.run [.byte, .seek 8193]).cache
        = some ⟨8192, #v[some ⟨0, #[7, 8]⟩, none, none], none⟩ := by
  decide +kernel

end Source

end Realm.NodeFile
