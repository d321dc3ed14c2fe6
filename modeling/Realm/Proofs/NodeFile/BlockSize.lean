/-
  Realm.Proofs.NodeFile.BlockSize — a cache keeps the block size that it was made with.

  Reading changes which blocks are in memory, and some reads fail; the block size is the same after all
  of them.  So the one that a session reports is the one for the length of the file.

  Main statements:
  * `blockSize?_run` — a walk to its end keeps the block size;
  * `blockSize?_parseFile` — the block size of a file that was parsed;
  * `cacheBlockSize_getProps` — requests keep the block size that a session reports.
-/
import Realm.Proofs.NodeFile.Reading

namespace Realm.NodeFile

/-! ## §1. Caches and sources. -/

/-- **A search for a block keeps the block size,** whether it finds one or not. -/
theorem BlockCache.blockSize_blockFor (c : BlockCache) (file : Array UInt8) (position : Nat) :
    (c.blockFor file position).2.blockSize = c.blockSize := by
  unfold blockFor
  grind

namespace Source

/-- The block size of the cache that a file is read through, if it is read through one. -/
def blockSize? (s : Source) : Option Nat := s.cache.map BlockCache.blockSize

variable (s : Source)

theorem blockSize?_seek (position : Nat) : (s.seek position).2.blockSize? = s.blockSize? := by
  unfold seek blockSize?
  grind [BlockCache.blockSize_blockFor]

theorem blockSize?_readByte : s.readByte.2.blockSize? = s.blockSize? := by
  unfold readByte blockSize?
  grind [BlockCache.blockSize_blockFor]

theorem blockSize?_nextByte : s.nextByte.2.blockSize? = s.blockSize? := by
  unfold nextByte
  grind [blockSize?_readByte]

/-- The blocks of a stretch are read with one block size. -/
theorem blockSize_readBlocks (file : Array UInt8) (c : BlockCache) (position missing : Nat)
    (taken : Array UInt8) :
    (readBlocks file c position missing taken).2.blockSize = c.blockSize := by
  induction missing using Nat.strongRecOn generalizing c position taken with
  | ind missing ih =>
    rw [readBlocks]
    have hblock := c.blockSize_blockFor file position
    grind

theorem blockSize?_readAt (position length : Nat) :
    (s.readAt position length).2.blockSize? = s.blockSize? := by
  unfold readAt blockSize?
  grind [blockSize_readBlocks]

end Source

/-! ## §2. Walks. -/

namespace Walk

theorem blockSize?_afterCloser (s : Source) (w : Walk) (top : Frame) (outer : List Frame) :
    (afterCloser s w top outer).2.blockSize? = s.blockSize? := by
  unfold afterCloser
  grind [Source.blockSize?_readByte, Source.blockSize?_seek]

theorem blockSize?_step (s : Source) (w : Walk) : (step s w).2.blockSize? = s.blockSize? := by
  unfold step
  grind [Source.blockSize?_nextByte, blockSize?_afterCloser]

/-- **A walk to its end keeps the block size.** -/
theorem blockSize?_run (s : Source) (w : Walk) : (run s w).2.blockSize? = s.blockSize? := by
  -- along the steps of the walk, which come nearer to the end of the file
  induction s, w using run.induct with
  | case1 s w e s' hstep =>
    rw [run_eq_resume, hstep, ← blockSize?_step s w, hstep]
    rfl
  | case2 s w nodes s' hstep =>
    rw [run_eq_resume, hstep, ← blockSize?_step s w, hstep]
    rfl
  | case3 s w w' s' hstep ih =>
    rw [run_eq_resume, hstep, ← blockSize?_step s w, hstep]
    exact ih

end Walk

theorem blockSize?_parseNodes (s : Source) : (parseNodes s).2.blockSize? = s.blockSize? := by
  unfold parseNodes
  grind [Source.blockSize?_seek, Source.blockSize?_readByte, Walk.blockSize?_run]

/-- **The block size of a file that was parsed** is the one for its length. -/
theorem blockSize?_parseFile {data : Array UInt8} {caching : Bool} {nodes : Arena} {s : Source}
    (h : parseFile data caching = .ok (nodes, s)) :
    s.blockSize? = if caching then some (blockSizeFor data.size) else none := by
  -- the header is read without a cache, which is made for the nodes
  have hheader := ({ data := data } : Source).blockSize?_readAt 0 headerSize
  unfold parseFile at h
  cases caching <;> grind [blockSize?_parseNodes, Source.blockSize?, BlockCache.forFileSize]

/-! ## §3. Sessions. -/

namespace Session

/-- **The block size that a session reports** when it has opened a file. -/
theorem cacheBlockSize_openFile {s t : Session} {path : String} {caching : Bool} {data : Array UInt8}
    (hfile : s.close.disk.lookup path = .file data)
    (h : s.perform (openFile path caching) = (.ok (), t)) :
    t.cacheBlockSize = if caching then some (blockSizeFor data.size) else none := by
  rw [perform_openFile, hfile] at h
  cases hparse : parseFile data caching with
  | error e => simp [hparse] at h
  | ok opened =>
    obtain ⟨nodes, source⟩ := opened
    simp only [hparse, Prod.mk.injEq, true_and] at h
    rw [← h]
    exact blockSize?_parseFile hparse

/-- **Requests keep the block size that a session reports.** -/
theorem cacheBlockSize_getProps (s : Session) (i : Nat) :
    (s.perform (getProps i)).2.cacheBlockSize = s.cacheBlockSize := by
  simp only [getProps, perform_bind, perform_get]
  cases hmode : s.mode with
  | closed => simp only [perform_refuse, cacheBlockSize, hmode]
  | writing w => simp only [perform_refuse, cacheBlockSize, hmode]
  | reading source =>
    cases s.nodes[i]? with
    | none => simp only [perform_refuse, cacheBlockSize, hmode]
    | some n =>
      have hsize := source.blockSize?_readAt n.propsAt n.propsSize
      have hreports : s.cacheBlockSize = source.blockSize? := by
        simp only [cacheBlockSize, hmode, Source.blockSize?]
      rw [hreports, ← hsize]
      cases hread : source.readAt n.propsAt n.propsSize with
      | mk answer source' =>
        cases answer with
        | error e =>
          simp only [hread, perform_bind, perform_set, perform_refuse]
          rfl
        | ok bytes =>
          simp only [hread, perform_bind, perform_set, perform_pure]
          rfl

end Session

end Realm.NodeFile
