/-
  Realm.Proofs.NodeFile.RoundTrip — a forest that is written, read again.

  Between the bytes of a forest and a walk over a session stands what the session's arena shows: each
  node under its place in preorder, with its kind, its data and its links.

  Main statements:
  * `shows_layout` — the layout of a spelled forest shows what the spelling says;
  * `readForest_of_shows` — a walk over the links gives the forest that the arena shows;
  * `readForest_writeFile` — writing a forest and opening the file gives the forest back.
-/
import Realm.Proofs.NodeFile.Reading
import Realm.Proofs.NodeFile.Writing

namespace Realm.NodeFile

/-! ## §1. What an arena shows. -/

/-- **An arena shows a forest** from the place `i` on: each node has its kind, its data, and the links
    to its first child and its next sibling. -/
def Shows (nodes : Arena) (props : Nat → Except Error (List UInt8)) :
    Forest (List UInt8) → Nat → Prop
  | .nil, _ => True
  | .node kind data inside behind, i =>
    nodes.kind? i = some kind ∧ props i = .ok data
      ∧ nodes.child? i = inside.link (i + 1) ∧ nodes.next? i = behind.link (i + 1 + inside.size)
      ∧ Shows nodes props inside (i + 1) ∧ Shows nodes props behind (i + 1 + inside.size)

/-- The chain of siblings of a forest that an arena shows. -/
theorem siblingsFrom_of_shows {nodes : Arena} {props : Nat → Except Error (List UInt8)}
    (f : Forest (List UInt8)) :
    ∀ (fuel i : Nat), f.size ≤ fuel → Shows nodes props f i →
      nodes.siblingsFrom fuel (f.link i) = f.roots i := by
  induction f with
  | nil => intros; simp [Forest.link, Arena.siblingsFrom, Forest.roots]
  | node kind data inside behind _ ihBehind =>
    intro fuel i hfuel hshows
    obtain ⟨_, _, _, hnext, _, hbehind⟩ := hshows
    rw [Forest.size] at hfuel
    cases fuel with
    | zero => omega
    | succ fuel =>
      show i :: nodes.siblingsFrom fuel (nodes.next? i) = _
      rw [hnext, ihBehind fuel _ (by omega) hbehind]
      rfl

/-- **The children of a node** that an arena shows are the trees inside it. -/
theorem children_of_shows {nodes : Arena} {props : Nat → Except Error (List UInt8)} {kind : UInt8}
    {data : List UInt8} {inside behind : Forest (List UInt8)} {i : Nat}
    (hsize : inside.size ≤ nodes.size) (h : Shows nodes props (.node kind data inside behind) i) :
    nodes.children i = inside.roots (i + 1) := by
  obtain ⟨_, _, hchild, _, hinside, _⟩ := h
  rw [Arena.children, hchild, siblingsFrom_of_shows inside _ _ hsize hinside]

/-- A stretch of a file is what stands there. -/
theorem toList_extract_of_drop {data : Array UInt8} {place : Nat} {bytes rest : List UInt8}
    (h : data.toList.drop place = bytes ++ rest) :
    (data.extract place (place + bytes.length)).toList = bytes := by
  rw [Array.toList_extract, List.extract_eq_take_drop, h, Nat.add_sub_cancel_left, List.take_left]

/-- **The layout of a spelled forest shows what the spelling says.** -/
theorem shows_layout {data : Array UInt8} {nodes : Arena} (f : Forest Spelling) :
    ∀ (i place : Nat) (before after : List Node) (rest : List UInt8), before.length = i →
      nodes.toList = before ++ f.layout i place ++ after →
      data.toList.drop place = f.bytes ++ rest →
      Shows nodes (Session.propsIn data nodes) f.said i := by
  induction f with
  | nil => intros; trivial
  | node kind s inside behind ihInside ihBehind =>
    intro i place before after rest hi hnodes hbytes
    rw [Forest.layout] at hnodes
    -- where the properties, the inner nodes and those behind begin
    have hprops : data.toList.drop (place + 1 + (s.kindBytes kind).length)
        = s.props ++ (inside.bytes ++ closer :: (behind.bytes ++ rest)) := by
      rw [Nat.add_assoc, ← List.drop_drop, hbytes]
      simp [Forest.bytes, Spelling.heading, Nat.add_comm 1]
    have hinside : data.toList.drop (place + 1 + (s.kindBytes kind).length + s.props.length)
        = inside.bytes ++ closer :: (behind.bytes ++ rest) := by
      rw [← List.drop_drop, hprops, List.drop_left]
    have hbehind : data.toList.drop (place + 1 + (s.kindBytes kind).length + s.props.length
        + (inside.bytes.length + 1)) = behind.bytes ++ rest := by
      rw [← List.drop_drop, ← List.drop_drop, hinside, List.drop_left]
      rfl
    generalize hinner : place + 1 + (s.kindBytes kind).length + s.props.length = inner
      at hnodes hinside hbehind
    generalize hn : Node.mk _ _ _ _ _ _ = n at hnodes
    have hnode : nodes[i]? = some n := by
      rw [← Array.getElem?_toList, hnodes, ← hi]
      simp
    refine ⟨?_, ?_, ?_, ?_, ?_, ?_⟩
    · simp only [Arena.kind?, hnode, Option.map_some, ← hn]
    · simp only [Session.propsIn, hnode, ← hn]
      rw [toList_extract_of_drop hprops, unescape_eq_decoded]
    · simp only [Arena.child?, hnode, Option.bind_some, ← hn, Forest.link_map]
    · simp only [Arena.next?, hnode, Option.bind_some, ← hn, Forest.link_map, Forest.size_map]
    · refine ihInside (i + 1) inner (before ++ [n])
        (behind.layout (i + 1 + inside.size) (inner + inside.bytes.length + 1) ++ after) _ ?_ ?_ hinside
      · rw [List.length_append, hi]
        rfl
      · rw [hnodes]
        simp only [List.append_assoc, List.cons_append, List.nil_append]
    · rw [Forest.size_map]
      refine ihBehind (i + 1 + inside.size) _ (before ++ n :: inside.layout (i + 1) inner) after rest
        ?_ ?_ hbehind
      · rw [List.length_append, List.length_cons, Forest.length_layout, hi]
        omega
      · rw [hnodes]
        simp only [List.append_assoc, List.cons_append, Nat.add_assoc]

/-- **A session that opened a complete file** reads it, and shows what its forest says. -/
theorem openFile_complete {s : Session} {data : Array UInt8} {path : String} {body : List UInt8}
    {f : Forest Spelling} (caching : Bool) (hfile : s.close.disk.lookup path = .file data)
    (hsplit : data.toList = headerBytes ++ body) (hbody : Complete body f) :
    ∃ s', s.perform (Session.openFile path caching) = (.ok (), s') ∧ s'.Reads data
      ∧ s'.root = some 0 ∧ s'.nodes.size = f.size
      ∧ Shows s'.nodes (Session.propsIn data s'.nodes) f.said 0 := by
  obtain ⟨s', hopened, hreads, hnodes, hroot⟩ :=
    Session.openFile_ok caching hfile (.complete hsplit hbody)
  obtain ⟨tail, htail, -⟩ := hbody.spelled
  refine ⟨s', hopened, hreads, hroot, ?_, ?_⟩
  · rw [hnodes, List.size_toArray, Forest.length_layout]
  · refine shows_layout f 0 headerSize [] [] tail rfl ?_ ?_
    · rw [hnodes, List.nil_append, List.append_nil]
    · rw [hsplit, htail]
      rfl

/-- **What a session has opened** is a complete file, and its arena is the layout of the file's forest and
    shows what the forest says. -/
theorem exists_shown_of_opened {s t : Session} {path : String} {caching : Bool}
    (h : s.perform (Session.openFile path caching) = (.ok (), t)) :
    ∃ data body f, s.close.disk.lookup path = .file data ∧ data.toList = headerBytes ++ body
      ∧ Complete body f ∧ t.root = some 0 ∧ t.nodes = (f.layout 0 headerSize).toArray
      ∧ Shows t.nodes (Session.propsIn data t.nodes) f.said 0 := by
  obtain ⟨data, body, f, hfile, hsplit, hbody⟩ := Session.exists_complete_of_opens (by rw [h])
  obtain ⟨t₁, hopened₁, -, hlayout, hroot⟩ := Session.openFile_ok caching hfile (.complete hsplit hbody)
  obtain ⟨t₂, hopened₂, -, -, -, hshows⟩ := openFile_complete caching hfile hsplit hbody
  obtain rfl : t = t₁ := congrArg Prod.snd (h.symm.trans hopened₁)
  obtain rfl : t = t₂ := congrArg Prod.snd (h.symm.trans hopened₂)
  exact ⟨data, body, f, hfile, hsplit, hbody, hroot, hlayout, hshows⟩

/-- A file that ends with its forest is complete. -/
theorem openFile_shows {s : Session} {data : Array UInt8} {path : String} {f : Forest Spelling}
    (caching : Bool) (hfile : s.close.disk.lookup path = .file data)
    (hbytes : data.toList = headerBytes ++ f.bytes) (hvalid : f.Valid) (hne : f ≠ .nil) :
    ∃ s', s.perform (Session.openFile path caching) = (.ok (), s') ∧ s'.Reads data
      ∧ s'.root = some 0 ∧ s'.nodes.size = f.size
      ∧ Shows s'.nodes (Session.propsIn data s'.nodes) f.said 0 :=
  openFile_complete caching hfile hbytes (complete_bytes hvalid hne)

/-! ## §2. A walk over the links. -/

namespace Session

/-- **Reads a forest** from its first node on: the node's data and kind, then what lies inside it, then
    what stands behind it.  No node is met twice, so as many levels as there are nodes are enough. -/
def readForest : Nat → Option Nat → Operation (Forest (Nat × List UInt8))
  | _, none => pure .nil
  | 0, some _ => pure .nil
  | fuel + 1, some i => do
    let data ← getProps i
    let s ← get
    match s.nodes.kind? i with
    | none => refuse .invalidNode
    | some kind => do
      let inside ← readForest fuel (s.child (some i))
      let behind ← readForest fuel (s.nodes.next? i)
      pure (.node kind (i, data) inside behind)

/-- **A walk over the links gives the forest that the arena shows,** each node under its place. -/
theorem readForest_of_shows {data : Array UInt8} {nodes : Arena} (f : Forest (List UInt8)) :
    ∀ (s : Session) (fuel i : Nat), s.Reads data → s.nodes = nodes → f.size ≤ fuel →
      Shows nodes (propsIn data nodes) f i →
      ∃ s', s.perform (readForest fuel (f.link i)) = (.ok (f.numbered i), s') ∧ s'.Reads data
        ∧ s'.nodes = nodes := by
  -- on the forest and not on the fuel: every request changes the session, and `Reads` carries over
  induction f with
  | nil =>
    intro s fuel i hreads hnodes _ _
    refine ⟨s, ?_, hreads, hnodes⟩
    cases fuel <;> rfl
  | node kind label inside behind ihInside ihBehind =>
    intro s fuel i hreads hnodes hfuel hshows
    obtain ⟨hkind, hprops, hchild, hnext, hinside, hbehind⟩ := hshows
    cases fuel with
    | zero =>
      rw [Forest.size] at hfuel
      omega
    | succ fuel =>
      rw [Forest.size] at hfuel
      obtain ⟨s₁, hget, hreads₁, hnodes₁, _⟩ := getProps_reads hreads i
      rw [hnodes] at hget hnodes₁
      rw [hprops] at hget
      obtain ⟨s₂, hread₂, hreads₂, hnodes₂⟩ :=
        ihInside s₁ fuel (i + 1) hreads₁ hnodes₁ (by omega) hinside
      obtain ⟨s₃, hread₃, hreads₃, hnodes₃⟩ :=
        ihBehind s₂ fuel (i + 1 + inside.size) hreads₂ hnodes₂ (by omega) hbehind
      refine ⟨s₃, ?_, hreads₃, hnodes₃⟩
      show s.perform (readForest (fuel + 1) (some i)) = _
      simp only [readForest, perform_bind, perform_get, hget, hnodes₁, hkind, child, hchild, hnext,
        hread₂, hread₃, perform_pure]
      rfl

/-! ## §3. There and back. -/

/-- **Writing a forest and opening its file gives the forest back.**  The forest may be cut into pieces
    of properties in any way, the file may be read through a cache or not, and by any session to which
    the disk is handed; only another writer may not hold bytes for the same file.  The walk finds every
    node under its place in preorder, and there are no others. -/
theorem readForest_writeFile (s : Session) (path : String) (f : Forest (List (List UInt8)))
    (hf : f ≠ .nil) (hroom : (s.disk.create? path).isSome)
    (hfree : s.writingTo? ≠ s.disk.fileKey? path) :
    let written := s.perform (writeFile path (writeForest f))
    written.1 = .ok () ∧ ∀ (t : Session) (caching : Bool), t.close.disk = written.2.disk →
      let opened := t.perform (openFile path caching)
      opened.1 = .ok () ∧ opened.2.nodes.size = f.size
        ∧ (opened.2.perform (readForest opened.2.nodes.size (opened.2.child none))).1
          = .ok ((f.map fun _ pieces => pieces.flatten).numbered 0) := by
  intro written
  obtain ⟨s', hwritten, _, hholds⟩ := perform_writeFile (Disk.isSome_fileKey? hroom) hfree
    (appends_writeForest f)
  rw [show written = _ from hwritten]
  refine ⟨rfl, ?_⟩
  intro t caching hdisk opened
  generalize hg : (f.map fun _ pieces => pieces.flatten) = g at hholds ⊢
  have hsize : g.size = f.size := by rw [← hg, Forest.size_map]
  have hne : g.written ≠ .nil := by
    rw [Forest.written, ne_eq, Forest.map_eq_nil, ← hg, Forest.map_eq_nil]
    exact hf
  have hfile : t.close.disk.lookup path = .file (headerBytes ++ g.written.bytes).toArray := by
    rw [hdisk]
    exact hholds.lookup
  obtain ⟨t', hopened, hreads, hroot, hnodes, hshows⟩ :=
    openFile_shows caching hfile rfl g.valid_written hne
  rw [show opened = _ from hopened]
  rw [Forest.written, Forest.size_map] at hnodes
  refine ⟨rfl, hnodes.trans hsize, ?_⟩
  rw [Forest.said_written] at hshows
  have hlink : t'.child none = g.link 0 := by
    rw [Forest.link_of_ne_nil (by rintro rfl; exact hne rfl)]
    exact hroot
  obtain ⟨_, hread, _, _⟩ :=
    readForest_of_shows g t' t'.nodes.size 0 hreads rfl (Nat.le_of_eq hnodes.symm) hshows
  rw [hlink, hread]

/-- A node whose kind and properties are marks, cut in the middle, comes back from a fresh disk. -/
theorem readForest_writeFile_marks :
    let f : Forest (List (List UInt8)) := .node opener [[escaper], [closer, 1]] .nil .nil
    let written := (Session.on .empty).perform (writeFile "w" (writeForest f))
    let opened := (Session.on written.2.disk).perform (openFile "w" true)
    (Disk.empty.create? "w").isSome ∧ written.1 = .ok () ∧ opened.1 = .ok ()
      ∧ (opened.2.perform (readForest opened.2.nodes.size (opened.2.child none))).1
        = .ok (.node opener (0, [escaper, closer, 1]) .nil .nil) := by
  intro f written opened
  have hroom := Disk.isSome_create?_empty
  have hfree := writingTo?_on_ne (Disk.isSome_fileKey? hroom)
  obtain ⟨hwritten, hread⟩ := readForest_writeFile (.on .empty) "w" f nofun hroom hfree
  obtain ⟨hopened, _, hforest⟩ := hread (.on written.2.disk) true rfl
  exact ⟨hroom, hwritten, hopened, hforest⟩

end Session

end Realm.NodeFile
