/-
  Realm.Proofs.NodeFile.Truncation — a file of one tree that was cut short.

  Where a tree ends is said by its own bytes, so what is left of them when some are missing at the end
  holds no whole tree in front.  Nor does a byte stand in a wrong place: a file goes wrong at the same
  byte whatever stands behind it.  So nothing is left but an end inside a node.

  Main statements:
  * `verdict_of_truncated` — the error that a part of such a file is refused with;
  * `openFile_truncated` — no part of a file that was written for one tree opens.
-/
import Realm.Proofs.NodeFile.RoundTrip

namespace Realm.NodeFile

/-! ## §1. What is left of a tree. -/

/-- No part of a tree's bytes is a complete body but the whole. -/
theorem not_complete_of_truncated {kind : UInt8} {s : Spelling} {inside f : Forest Spelling}
    {body missing : List UInt8} (hvalid : (Forest.node kind s inside .nil).Valid)
    (h : body ++ missing = (Forest.node kind s inside .nil).bytes) (hmissing : missing ≠ []) :
    ¬ Complete body f := by
  rintro ⟨hf, hne, tail, rfl, -⟩
  cases f with
  | nil => exact hne rfl
  | node kind' s' inside' behind' =>
    -- the first tree of the part is the whole tree already
    have hfirst : (Forest.node kind' s' inside' .nil).Valid := ⟨hf.1, hf.2.1, trivial⟩
    have hsplit : (Forest.node kind' s' inside' .nil).bytes ++ (behind'.bytes ++ (tail ++ missing))
        = (Forest.node kind s inside .nil).bytes ++ [] := by
      rw [← h]
      simp [Forest.bytes]
    have hnothing := tree_unique hfirst hvalid hsplit
    simp [hmissing] at hnothing

/-- A stray byte is one whatever stands behind it. -/
theorem StrayByte.append {body : List UInt8} (h : StrayByte body) (more : List UInt8) :
    StrayByte (body ++ more) := by
  obtain ⟨path, f, b, rest, hpath, hf, hne, hopener, hcloser, rfl⟩ := h
  exact ⟨path, f, b, rest ++ more, hpath, hf, hne, hopener, hcloser, by simp⟩

/-- A complete body has no stray byte: a file cannot both open and be refused. -/
theorem Complete.not_strayByte {body : List UInt8} {f : Forest Spelling} (h : Complete body f) :
    ¬ StrayByte body := by
  intro hstray
  have hopens : (parseFile (headerBytes ++ body).toArray false).map Prod.fst
      = .ok (f.layout 0 headerSize).toArray :=
    parseFile_of_verdict false (.complete rfl h)
  have hrefused : (parseFile (headerBytes ++ body).toArray false).map Prod.fst
      = .error .invalidFormat :=
    parseFile_of_verdict false (.stray rfl hstray)
  rw [hopens] at hrefused
  cases hrefused

/-- Why a file that was cut at a place is refused: behind the header a node is asked for, and anywhere
    else more bytes. -/
def truncationError (size : Nat) : Error :=
  if size = headerSize then .invalidFormat else .endOfFile

/-- **A part of a file of one tree** is refused, and for want of bytes unless it is the header. -/
theorem verdict_of_truncated {kind : UInt8} {s : Spelling} {inside : Forest Spelling}
    {part missing : List UInt8} (hvalid : (Forest.node kind s inside .nil).Valid)
    (h : part ++ missing = headerBytes ++ (Forest.node kind s inside .nil).bytes)
    (hmissing : missing ≠ []) : Verdict part (.error (truncationError part.length)) := by
  unfold truncationError
  have hheader : headerBytes.length = headerSize := rfl
  by_cases hshort : part.length < headerSize
  · rw [if_neg (by omega)]
    exact .short hshort
  -- the header is there, and behind it a part of the tree
  obtain ⟨body, rfl⟩ : ∃ body, part = headerBytes ++ body := by
    obtain ⟨body, hbody, -⟩ | ⟨more, hmore, -⟩ := List.append_eq_append_iff.1 h
    · have hlength := congrArg List.length hbody
      rw [List.length_append] at hlength
      obtain rfl := List.eq_nil_of_length_eq_zero (l := body) (by omega)
      exact ⟨[], by rw [hbody, List.append_nil, List.append_nil]⟩
    · exact ⟨more, hmore⟩
  rw [List.append_assoc, List.append_cancel_left_eq] at h
  cases body with
  | nil =>
    rw [List.append_nil, if_pos hheader]
    exact .noOpener (List.append_nil _).symm nofun
  | cons b rest =>
    have hlonger : (headerBytes ++ b :: rest).length ≠ headerSize := by
      rw [List.length_append, List.length_cons]
      omega
    rw [if_neg hlonger]
    have hopen : (b :: rest).head? = some opener := congrArg some (List.cons.inj h).1
    have hwhole : Complete (b :: rest ++ missing) (.node kind s inside .nil) :=
      ⟨hvalid, nofun, [], by rw [h, List.append_nil], .inl rfl⟩
    rcases complete_or_stray_or_endsInside hopen with ⟨f, hf⟩ | hstray | hearly
    · exact absurd hf (not_complete_of_truncated hvalid h hmissing)
    · exact absurd (hstray.append missing) hwhole.not_strayByte
    · exact .early rfl hearly

/-! ## §2. Files cut short. -/

namespace Session

/-- **A session refuses a part of a file of one tree,** with a cache or without. -/
theorem openFile_of_truncated {t : Session} {path : String} {kind : UInt8} {s : Spelling}
    {inside : Forest Spelling} {bytes : Array UInt8} {n : Nat} (caching : Bool)
    (hvalid : (Forest.node kind s inside .nil).Valid)
    (hbytes : bytes.toList = headerBytes ++ (Forest.node kind s inside .nil).bytes)
    (hn : n < bytes.size) (hfile : t.close.disk.lookup path = .file (bytes.extract 0 n)) :
    t.perform (openFile path caching) = (.error (truncationError n), t.refused (truncationError n)) := by
  have hpart : (bytes.extract 0 n).toList = bytes.toList.take n := by
    rw [Array.toList_extract]
    rfl
  have hlength : (bytes.toList.take n).length = n := by
    rw [List.length_take, Array.length_toList]
    omega
  have hmissing : bytes.toList.drop n ≠ [] := by
    rw [ne_eq, List.drop_eq_nil_iff, Array.length_toList]
    omega
  have hverdict := verdict_of_truncated hvalid
    ((List.take_append_drop n bytes.toList).trans hbytes) hmissing
  rw [hlength, ← hpart] at hverdict
  exact openFile_error caching hfile hverdict

/-- **A file that was written for one tree** is refused when any of its last bytes are missing. -/
theorem openFile_truncated (s : Session) (path : String) (kind : UInt8) (pieces : List (List UInt8))
    (inside : Forest (List (List UInt8))) (hroom : (s.disk.create? path).isSome)
    (hfree : s.writingTo? ≠ s.disk.fileKey? path) :
    ∃ s' bytes, s.perform (writeFile path (writeForest (.node kind pieces inside .nil))) = (.ok (), s')
      ∧ s'.disk.lookup path = .file bytes
      ∧ ∀ n < bytes.size, ∀ (t : Session) (part : String) (caching : Bool),
          t.close.disk.lookup part = .file (bytes.extract 0 n) →
          (t.perform (openFile part caching)).1 = .error (truncationError n) := by
  obtain ⟨s', hwritten, -, hholds⟩ := perform_writeFile (Disk.isSome_fileKey? hroom) hfree
    (appends_writeForest (.node kind pieces inside .nil))
  refine ⟨s', _, hwritten, hholds.lookup, fun n hn t part caching hfile => ?_⟩
  have hvalid := Forest.valid_written (.node kind pieces.flatten
    (inside.map fun _ pieces => pieces.flatten) .nil)
  rw [openFile_of_truncated caching hvalid rfl hn hfile]

end Session

end Realm.NodeFile
