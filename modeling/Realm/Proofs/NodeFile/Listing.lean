/-
  Realm.Proofs.NodeFile.Listing — what the listing of a file shows.

  The listing keeps the nodes that it still has to show on a stack, and requests properties between one
  look at the links and the next.  An `Entry` is what it says of one node; the entries of a forest are
  known from the forest alone.  A visit of the trees of a shown forest adds the entries of the forest
  and goes on with what else waits on the stack, and this is an induction on the forest, for any stack.

  Main statements:
  * `visit_of_shows` — a visit adds the entries of a shown forest;
  * `depth_iff` — the entries of a tree are those of the nodes below its root, each under its depth;
  * `listCommand_shows_tree` — the listing of a file that opens.
-/
import Mathlib.Algebra.GroupWithZero.Nat
import Realm.NodeFile.Outline
import Realm.Proofs.NodeFile.BlockSize
import Realm.Proofs.NodeFile.RoundTrip

namespace Realm.NodeFile

/-! ## §1. Texts of one line. -/

/-- **A text that is printed as one line:** no line end stands in it. -/
def OneLine (s : String) : Prop := '\n' ∉ s.toList

instance (s : String) : Decidable (OneLine s) := inferInstanceAs (Decidable ('\n' ∉ s.toList))

namespace OneLine

theorem append {s t : String} (hs : OneLine s) (ht : OneLine t) : OneLine (s ++ t) := by
  rw [OneLine, String.toList_append, List.mem_append]
  exact fun h => h.elim hs ht

theorem blanks (n : Nat) : OneLine ("".pushn ' ' n) := by
  rw [String.pushn_eq_repeat_push]
  induction n with
  | zero => decide
  | succ n ih =>
    rw [OneLine, Nat.repeat, String.toList_push, List.mem_append]
    exact fun h => h.elim ih (by decide)

theorem intercalate {l : List String} (h : ∀ s ∈ l, OneLine s) : OneLine (" ".intercalate l) := by
  induction l with
  | nil => decide
  | cons s l ih =>
    have hs := h s List.mem_cons_self
    by_cases hl : l = []
    · subst hl
      rw [String.intercalate_singleton]
      exact hs
    · rw [String.intercalate_cons_of_ne_nil hl]
      have hblank : OneLine " " := by decide
      exact (hs.append hblank).append (ih fun t ht => h t (List.mem_cons_of_mem _ ht))

theorem number (n : Nat) : OneLine (toString n) := by
  intro h
  have hdigit : Char.isDigit '\n' = true :=
    Nat.isDigit_of_mem_toDigits (by decide) (by decide) (Nat.toList_repr ▸ h)
  exact absurd hdigit (by decide)

theorem hexByte (b : UInt8) : OneLine (hexByte b) := by
  have hdigit (n : Nat) : '\n' ≠ n.digitChar := (Nat.digitChar_ne '\n' (by decide)).symm
  simp [OneLine, NodeFile.hexByte, hdigit]

/-- **What is said of a node with its properties** is one line. -/
theorem describe (kind : UInt8) (props : List UInt8) : OneLine (describe kind (.ok props)) := by
  have hshown : OneLine (" ".intercalate ((props.take previewSize).map NodeFile.hexByte)) := by
    refine intercalate fun s hs => ?_
    obtain ⟨b, -, rfl⟩ := List.mem_map.mp hs
    exact hexByte b
  have hmore : OneLine (if props.length > previewSize then " .." else "") := by
    split <;> decide
  have hbegin : OneLine "type=" := by decide
  have hprops : OneLine " props=" := by decide
  have hopen : OneLine " [" := by decide
  have hclose : OneLine "]" := by decide
  exact ((((((hbegin.append (number kind.toNat)).append hprops).append (number props.length)).append
    hopen).append hshown).append hmore).append hclose

end OneLine

/-! ## §2. Entries. -/

/-- **What a listing says of one node:** its place in the arena, its depth below the root, its kind and
    its properties. -/
structure Entry where
  node : Nat
  depth : Nat
  kind : UInt8
  props : List UInt8
deriving Repr, DecidableEq

namespace Entry

/-- The line of a node: two blanks for each level above it, then its kind and its properties. -/
def line (e : Entry) : String := "".pushn ' ' (2 * e.depth) ++ describe e.kind (.ok e.props)

theorem oneLine_line (e : Entry) : OneLine e.line :=
  (OneLine.blanks (2 * e.depth)).append (OneLine.describe e.kind e.props)

end Entry

namespace Forest

variable {i d : Nat}

/-- **The entries of a forest** whose first node has the place `i`, with its trees at the depth `d`. -/
def entries : Forest (List UInt8) → Nat → Nat → List Entry
  | nil, _, _ => []
  | node kind props inside behind, i, d =>
    ⟨i, d, kind, props⟩ :: (inside.entries (i + 1) (d + 1) ++ behind.entries (i + 1 + inside.size) d)

/-- **Entries come in the order of the arena.** -/
theorem map_node_entries (f : Forest (List UInt8)) :
    ∀ i d, (f.entries i d).map Entry.node = List.range' i f.size := by
  induction f with
  | nil => exact fun _ _ => rfl
  | node kind props inside behind ihInside ihBehind =>
    intro i d
    rw [entries, List.map_cons, List.map_append, ihInside, ihBehind, List.range'_append_1, size,
      Nat.add_assoc, Nat.add_comm 1, List.range'_succ]

/-- Each tree has an entry, at the depth of the trees. -/
theorem exists_entry_of_root (f : Forest (List UInt8)) :
    ∀ i d, ∀ r ∈ f.roots i, ∃ e ∈ f.entries i d, e.node = r ∧ e.depth = d := by
  induction f with
  | nil => intro i d r hr; cases hr
  | node kind props inside behind _ ihBehind =>
    intro i d r hr
    rcases List.mem_cons.mp hr with rfl | hr
    · exact ⟨_, List.mem_cons_self, rfl, rfl⟩
    · obtain ⟨e, he, hnode⟩ := ihBehind _ d r hr
      exact ⟨e, List.mem_cons_of_mem _ (List.mem_append_right _ he), hnode⟩

end Forest

/-! ## §3. Depths. -/

/-- **A node stands at a depth below a root:** the root at depth zero, and the children of a node one
    deeper than it. -/
inductive Arena.Depth (a : Arena) (root : Nat) : Nat → Nat → Prop
  | root : Depth a root root 0
  | child {i j d : Nat} (above : Depth a root i d) (inside : j ∈ a.children i) : Depth a root j (d + 1)

section

variable {nodes : Arena} {props : Nat → Except Error (List UInt8)}

/-- Entries say what the arena shows. -/
theorem shown_of_mem_entries (f : Forest (List UInt8)) :
    ∀ i d, Shows nodes props f i → ∀ e ∈ f.entries i d,
      nodes.kind? e.node = some e.kind ∧ props e.node = .ok e.props := by
  induction f with
  | nil => intro i d _ e he; cases he
  | node kind data inside behind ihInside ihBehind =>
    intro i d hshows e he
    obtain ⟨hkind, hprops, -, -, hinside, hbehind⟩ := hshows
    rcases List.mem_cons.mp he with rfl | he
    · exact ⟨hkind, hprops⟩
    · rcases List.mem_append.mp he with he | he
      · exact ihInside _ _ hinside e he
      · exact ihBehind _ _ hbehind e he

/-- The depth of an entry is that of its node, if the trees stand at the depth `d`. -/
theorem depth_of_mem_entries {root : Nat} (f : Forest (List UInt8)) :
    ∀ i d, Shows nodes props f i → f.size ≤ nodes.size → (∀ r ∈ f.roots i, nodes.Depth root r d) →
      ∀ e ∈ f.entries i d, nodes.Depth root e.node e.depth := by
  induction f with
  | nil => intro i d _ _ _ e he; cases he
  | node kind data inside behind ihInside ihBehind =>
    intro i d hshows hsize hroots e he
    rw [Forest.size] at hsize
    have hchildren : nodes.children i = inside.roots (i + 1) := children_of_shows (by omega) hshows
    obtain ⟨-, -, -, -, hinside, hbehind⟩ := hshows
    have hroot : nodes.Depth root i d := hroots i List.mem_cons_self
    rcases List.mem_cons.mp he with rfl | he
    · exact hroot
    · rcases List.mem_append.mp he with he | he
      · exact ihInside _ _ hinside (by omega) (fun r hr => .child hroot (hchildren ▸ hr)) e he
      · exact ihBehind _ _ hbehind (by omega) (fun r hr => hroots r (List.mem_cons_of_mem _ hr)) e he

/-- The children of an entry's node have entries too, one level deeper. -/
theorem exists_entry_of_child (f : Forest (List UInt8)) :
    ∀ i d, Shows nodes props f i → f.size ≤ nodes.size → ∀ e ∈ f.entries i d,
      ∀ j ∈ nodes.children e.node, ∃ e' ∈ f.entries i d, e'.node = j ∧ e'.depth = e.depth + 1 := by
  induction f with
  | nil => intro i d _ _ e he; cases he
  | node kind data inside behind ihInside ihBehind =>
    intro i d hshows hsize e he j hj
    rw [Forest.size] at hsize
    have hchildren : nodes.children i = inside.roots (i + 1) := children_of_shows (by omega) hshows
    obtain ⟨-, -, -, -, hinside, hbehind⟩ := hshows
    have hwithin : ∀ e' ∈ inside.entries (i + 1) (d + 1),
        e' ∈ (Forest.node kind data inside behind).entries i d := fun e' he' =>
      List.mem_cons_of_mem _ (List.mem_append_left _ he')
    rcases List.mem_cons.mp he with rfl | he
    · obtain ⟨e', he', hnode⟩ := inside.exists_entry_of_root (i + 1) (d + 1) j (hchildren ▸ hj)
      exact ⟨e', hwithin e' he', hnode⟩
    · rcases List.mem_append.mp he with he | he
      · obtain ⟨e', he', hnode⟩ := ihInside _ _ hinside (by omega) e he j hj
        exact ⟨e', hwithin e' he', hnode⟩
      · obtain ⟨e', he', hnode⟩ := ihBehind _ _ hbehind (by omega) e he j hj
        exact ⟨e', List.mem_cons_of_mem _ (List.mem_append_right _ he'), hnode⟩

/-- The entries of the first tree of an arena. -/
def treeEntries (kind : UInt8) (data : List UInt8) (inside : Forest (List UInt8)) : List Entry :=
  ⟨0, 0, kind, data⟩ :: inside.entries 1 1

/-- **The entries of a tree are those of the nodes below its root,** each under its depth. -/
theorem depth_iff {kind : UInt8} {data : List UInt8} {inside behind : Forest (List UInt8)}
    (h : Shows nodes props (.node kind data inside behind) 0) (hsize : inside.size ≤ nodes.size)
    (i d : Nat) :
    nodes.Depth 0 i d ↔ ∃ e ∈ treeEntries kind data inside, e.node = i ∧ e.depth = d := by
  have hchildren : nodes.children 0 = inside.roots 1 := children_of_shows hsize h
  obtain ⟨-, -, -, -, hinside, -⟩ := h
  constructor
  · -- along the way down from the root
    intro hdepth
    induction hdepth with
    | root => exact ⟨_, List.mem_cons_self, rfl, rfl⟩
    | child _ hj ih =>
      obtain ⟨e, he, rfl, rfl⟩ := ih
      rcases List.mem_cons.mp he with rfl | he
      · obtain ⟨e', he', hnode⟩ := inside.exists_entry_of_root 1 1 _ (hchildren ▸ hj)
        exact ⟨e', List.mem_cons_of_mem _ he', hnode⟩
      · obtain ⟨e', he', hnode⟩ := exists_entry_of_child inside 1 1 hinside hsize e he _ hj
        exact ⟨e', List.mem_cons_of_mem _ he', hnode⟩
  · rintro ⟨e, he, rfl, rfl⟩
    rcases List.mem_cons.mp he with rfl | he
    · exact .root
    · exact depth_of_mem_entries inside 1 1 hinside hsize
        (fun r hr => .child .root (hchildren ▸ hr)) e he

end

/-! ## §4. The visit. -/

namespace Outline

/-- A listing with one more entry. -/
def add (o : Outline) (e : Entry) : Outline := ⟨e.line :: o.lines, o.propBytes + e.props.length⟩

/-- The lines of entries come out last one first, and their properties are counted. -/
theorem foldl_add (o : Outline) (es : List Entry) :
    es.foldl add o
      = ⟨(es.map Entry.line).reverse ++ o.lines, o.propBytes + (es.map (·.props.length)).sum⟩ := by
  induction es generalizing o with
  | nil => rfl
  | cons e es ih =>
    rw [List.foldl_cons, ih]
    simp [add, Nat.add_assoc]

variable {data : Array UInt8} {nodes : Arena}

/-- What a visit goes on with: a session that reads the same nodes, with the same block size. -/
structure Continues (data : Array UInt8) (nodes : Arena) (s s' : Session) : Prop where
  reads : s'.Reads data
  nodes_eq : s'.nodes = nodes
  cacheBlockSize_eq : s'.cacheBlockSize = s.cacheBlockSize

theorem Continues.trans {s s' s'' : Session} (h : Continues data nodes s s')
    (h' : Continues data nodes s' s'') : Continues data nodes s s'' :=
  ⟨h'.reads, h'.nodes_eq, h'.cacheBlockSize_eq.trans h.cacheBlockSize_eq⟩

/-- **A visit of one node** adds its entry, and puts its children in front of what waits. -/
theorem visit_node {s : Session} {kind : UInt8} {label : List UInt8}
    {inside behind : Forest (List UInt8)} {i : Nat} (hreads : s.Reads data) (hnodes : s.nodes = nodes)
    (hsize : inside.size ≤ nodes.size)
    (hshows : Shows nodes (Session.propsIn data nodes) (.node kind label inside behind) i)
    (fuel d : Nat) (waiting : List (Nat × Nat)) (o : Outline) :
    ∃ s', visit (fuel + 1) ((i, d) :: waiting) s o
        = visit fuel ((inside.roots (i + 1)).map (·, d + 1) ++ waiting) s' (o.add ⟨i, d, kind, label⟩)
      ∧ Continues data nodes s s' := by
  have hchildren := children_of_shows hsize hshows
  obtain ⟨hkind, hprops, -⟩ := hshows
  obtain ⟨s', hget, hreads', hnodes', -⟩ := Session.getProps_reads hreads i
  have hblock := s.cacheBlockSize_getProps i
  rw [hnodes] at hget hnodes'
  rw [hget] at hblock
  refine ⟨s', ?_, hreads', hnodes', hblock⟩
  simp only [visit, hget, hprops, hnodes', hkind, hchildren]
  rfl

/-- **A visit of the trees of a shown forest** adds the entries of the forest, and goes on with what
    waits. -/
theorem visit_of_shows (f : Forest (List UInt8)) :
    ∀ (s : Session) (i d fuel : Nat) (waiting : List (Nat × Nat)) (o : Outline), s.Reads data →
      s.nodes = nodes → f.size ≤ nodes.size → Shows nodes (Session.propsIn data nodes) f i →
      ∃ s', visit (fuel + f.size) ((f.roots i).map (·, d) ++ waiting) s o
          = visit fuel waiting s' ((f.entries i d).foldl add o)
        ∧ Continues data nodes s s' := by
  induction f with
  | nil => exact fun s _ _ _ _ _ hreads hnodes _ _ => ⟨s, rfl, hreads, hnodes, rfl⟩
  | node kind label inside behind ihInside ihBehind =>
    intro s i d fuel waiting o hreads hnodes hsize hshows
    rw [Forest.size] at hsize
    -- the node, then what lies inside it, with what stands behind it waiting, and then that
    obtain ⟨s₁, hvisit₁, h₁⟩ := visit_node hreads hnodes (by omega) hshows
      (fuel + behind.size + inside.size) d ((behind.roots (i + 1 + inside.size)).map (·, d) ++ waiting)
      o
    obtain ⟨-, -, -, -, hinside, hbehind⟩ := hshows
    obtain ⟨s₂, hvisit₂, h₂⟩ := ihInside s₁ (i + 1) (d + 1) (fuel + behind.size)
      ((behind.roots (i + 1 + inside.size)).map (·, d) ++ waiting) (o.add ⟨i, d, kind, label⟩) h₁.reads
      h₁.nodes_eq (by omega) hinside
    obtain ⟨s₃, hvisit₃, h₃⟩ := ihBehind s₂ (i + 1 + inside.size) d fuel waiting
      ((inside.entries (i + 1) (d + 1)).foldl add (o.add ⟨i, d, kind, label⟩)) h₂.reads h₂.nodes_eq
      (by omega) hbehind
    refine ⟨s₃, ?_, (h₁.trans h₂).trans h₃⟩
    have hfuel : fuel + (Forest.node kind label inside behind).size
        = fuel + behind.size + inside.size + 1 := by
      rw [Forest.size]
      omega
    rw [hfuel, Forest.entries, List.foldl_cons, List.foldl_append]
    exact hvisit₁.trans (hvisit₂.trans hvisit₃)

/-- **The listing of a session** that reads a file whose arena shows a forest: the entries of its first
    tree, and the totals. -/
theorem ofSession_of_shows {s : Session} {kind : UInt8} {label : List UInt8}
    {inside behind : Forest (List UInt8)} (hreads : s.Reads data)
    (hsize : s.nodes.size = (Forest.node kind label inside behind).size)
    (hshows : Shows s.nodes (Session.propsIn data s.nodes) (.node kind label inside behind) 0) :
    let es : List Entry := treeEntries kind label inside
    ofSession s 0 = es.map Entry.line
      ++ [s!"nodes: {es.length} (parsed {s.nodes.size})",
          s!"prop bytes: {(es.map (·.props.length)).sum}"]
      ++ s.cacheBlockSize.toList.map fun size => s!"cache block size: {size}" := by
  intro es
  rw [Forest.size] at hsize
  obtain ⟨s₁, hvisit₁, h₁⟩ :=
    visit_node hreads rfl (by omega) hshows (behind.size + inside.size) 0 [] {}
  obtain ⟨-, -, -, -, hinside, -⟩ := hshows
  obtain ⟨s₂, hvisit₂, h₂⟩ := visit_of_shows inside s₁ 1 1 behind.size [] (add {} ⟨0, 0, kind, label⟩)
    h₁.reads h₁.nodes_eq (by omega) hinside
  -- visits are left over for the siblings of the root, which nothing leads to
  have hvisit : visit s.nodes.size [(0, 0)] s {} = (es.foldl add {}, s₂) := by
    have hfuel : s.nodes.size = behind.size + inside.size + 1 := by omega
    rw [hfuel, hvisit₁, hvisit₂]
    cases behind.size <;> rfl
  obtain ⟨-, hnodes, hblock⟩ := h₁.trans h₂
  have hlines : (es.foldl add {}).lines.reverse = es.map Entry.line := by
    rw [foldl_add, List.append_nil, List.reverse_reverse]
  have hcount : (es.foldl add {}).lines.length = es.length := by
    rw [← List.length_reverse, hlines, List.length_map]
  have hbytes : (es.foldl add {}).propBytes = (es.map (·.props.length)).sum := by
    rw [foldl_add, Nat.zero_add]
  simp only [ofSession, hvisit, hlines, hcount, hbytes, hnodes, hblock]
  cases s.cacheBlockSize <;> rfl

end Outline

/-! ## §5. The command. -/

/-- **A file that opens has a first tree,** and opens to the same nodes with a cache and without. -/
theorem exists_tree_of_opened {s t : Session} {path : String} {caching : Bool}
    (h : s.perform (Session.openFile path caching) = (.ok (), t)) :
    ∃ data kind label inside behind, s.close.disk.lookup path = .file data
      ∧ t.nodes.size = (Forest.node kind label inside behind).size
      ∧ Shows t.nodes (Session.propsIn data t.nodes) (.node kind label inside behind) 0
      ∧ ∀ caching', ∃ s', s.perform (Session.openFile path caching') = (.ok (), s')
          ∧ s'.Reads data ∧ s'.nodes = t.nodes ∧ s'.root = some 0 := by
  obtain ⟨data, body, f, hfile, hsplit, hbody, -, hlayout, hshows⟩ := exists_shown_of_opened h
  have hopens := fun caching' => Session.openFile_ok caching' hfile (.complete hsplit hbody)
  rw [← hlayout] at hopens
  cases f with
  | nil => exact absurd rfl hbody.ne_nil
  | node kind spelling inside behind =>
    refine ⟨data, _, _, _, _, hfile, ?_, hshows, hopens⟩
    rw [hlayout, List.size_toArray, Forest.length_layout, Forest.size, Forest.size, Forest.size_map,
      Forest.size_map]

/-- **The listing of a file that opens,** whatever its bytes are, has an entry for each of the nodes
    below the root:

    * one line for each entry, in the order of the arena from the first node on, with the depth, the
      kind and the properties that the node has; none of them is unreadable;
    * then how many lines these are and how many nodes were parsed, which is one number exactly when the
      root has no sibling, and how many property bytes the lines stand for;
    * and last the block size, unless the cache was declined; the other lines are the same then. -/
theorem listCommand_shows_tree {disk : Disk} {path : String} {caching : Bool} {t : Session}
    (h : (Session.on disk).perform (Session.openFile path caching) = (.ok (), t)) :
    ∃ (data : Array UInt8) (entries : List Entry), disk.lookup path = .file data
      ∧ entries.map Entry.node = List.range entries.length
      ∧ (∀ i d, t.nodes.Depth 0 i d ↔ ∃ e ∈ entries, e.node = i ∧ e.depth = d)
      ∧ (∀ e ∈ entries, t.nodes.kind? e.node = some e.kind
          ∧ Session.propsIn data t.nodes e.node = .ok e.props ∧ OneLine e.line)
      ∧ (entries.length = t.nodes.size ↔ t.nodes.next? 0 = none)
      ∧ ∀ options : List String, listCommand disk (path :: options) =
          ⟨0, entries.map Entry.line
            ++ [s!"nodes: {entries.length} (parsed {t.nodes.size})",
                s!"prop bytes: {(entries.map (·.props.length)).sum}"]
            ++ if options.contains "--no-cache" then []
              else [s!"cache block size: {blockSizeFor data.size}"], []⟩ := by
  obtain ⟨data, kind, label, inside, behind, hfile, hsize, hshows, hopens⟩ := exists_tree_of_opened h
  have hnext : t.nodes.next? 0 = behind.link (0 + 1 + inside.size) := hshows.2.2.2.1
  have hplaces : (treeEntries kind label inside).map Entry.node
      = List.range' 0 (1 + inside.size) := by
    rw [treeEntries, List.map_cons, inside.map_node_entries, Nat.add_comm 1, List.range'_succ]
  have hlength : (treeEntries kind label inside).length = 1 + inside.size := by
    rw [← List.length_map, hplaces, List.length_range']
  rw [Forest.size] at hsize
  refine ⟨data, treeEntries kind label inside, hfile, ?_, depth_iff hshows (by omega), ?_, ?_, ?_⟩
  · rw [hplaces, hlength, List.range_eq_range']
  · intro e he
    obtain ⟨hkind, hprops, -, -, hinside, -⟩ := hshows
    rcases List.mem_cons.mp he with rfl | he
    · exact ⟨hkind, hprops, Entry.oneLine_line _⟩
    · obtain ⟨hkind', hprops'⟩ := shown_of_mem_entries inside 1 1 hinside e he
      exact ⟨hkind', hprops', e.oneLine_line⟩
  · rw [hlength, hsize, hnext]
    cases behind with
    | nil => exact ⟨fun _ => rfl, fun _ => rfl⟩
    | node kind' label' inside' behind' =>
      rw [Forest.size]
      constructor
      · intro hall
        omega
      · intro hnone
        cases hnone
  · intro options
    obtain ⟨s, hopened, hreads, hnodes, hroot⟩ := hopens (!options.contains "--no-cache")
    rw [← hnodes] at hshows
    have hlisting := Outline.ofSession_of_shows hreads (by rw [hnodes, hsize, Forest.size]) hshows
    rw [Session.cacheBlockSize_openFile hfile hopened, hnodes] at hlisting
    simp only [listCommand, hopened, hroot, hlisting]
    cases options.contains "--no-cache" <;> rfl

/-- A node with two property bytes, one of them a mark, and a node inside it. -/
def nested : Forest (List UInt8) := .node 1 [0x61, opener] (.node 2 [] .nil .nil) .nil

/-- The listing of a file with two nodes, one inside the other, read without a cache. -/
theorem listCommand_shows_tree_nested :
    ∃ (disk : Disk) (t : Session),
      (Session.on disk).perform (Session.openFile "w" true) = (.ok (), t)
        ∧ listCommand disk ["w", "--no-cache"]
          = ⟨0, ["type=1 props=2 [61 fe]", "  type=2 props=0 []", "nodes: 2 (parsed 2)",
              "prop bytes: 2"], []⟩ := by
  obtain ⟨disk, hfile⟩ := Disk.exists_lookup_eq (headerBytes ++ nested.written.bytes).toArray
  obtain ⟨t, hopened, -, -, hsize, hshows⟩ := openFile_shows (s := .on disk) true hfile rfl
    nested.valid_written nofun
  rw [Forest.said_written] at hshows
  obtain ⟨data, entries, hfile', hplaces, hdepth, hshown, hall, hlisting⟩ :=
    listCommand_shows_tree hopened
  obtain rfl : _ = data := DiskEntry.file.inj (hfile.symm.trans hfile')
  have hchildren : t.nodes.children 0 = [1] := children_of_shows (by rw [hsize]; decide) hshows
  obtain ⟨hkind₀, hprops₀, -, hnext, ⟨hkind₁, hprops₁, -⟩, -⟩ := hshows
  have hlength : entries.length = 2 := (hall.mpr hnext).trans hsize
  obtain ⟨e₀, e₁, rfl⟩ : ∃ e₀ e₁, entries = [e₀, e₁] := by
    match entries, hlength with
    | [e₀, e₁], _ => exact ⟨e₀, e₁, rfl⟩
  have hnodes : e₀.node = 0 ∧ e₁.node = 1 := by
    have htwo : [e₀.node, e₁.node] = [0, 1] := hplaces
    simpa using htwo
  have hdepths : e₀.depth = 0 ∧ e₁.depth = 1 := by
    have hroot := (hdepth 0 0).mp .root
    have hchild := (hdepth 1 1).mp (.child .root (hchildren ▸ List.mem_singleton_self 1))
    simpa [hnodes] using And.intro hroot hchild
  have hsaid : (e₀.kind = 1 ∧ e₀.props = [0x61, opener]) ∧ e₁.kind = 2 ∧ e₁.props = [] := by
    obtain ⟨hk₀, hp₀, -⟩ := hshown e₀ (by simp)
    obtain ⟨hk₁, hp₁, -⟩ := hshown e₁ (by simp)
    rw [hnodes.1] at hk₀ hp₀
    rw [hnodes.2] at hk₁ hp₁
    exact ⟨⟨Option.some.inj (hk₀.symm.trans hkind₀), Except.ok.inj (hp₀.symm.trans hprops₀)⟩,
      Option.some.inj (hk₁.symm.trans hkind₁), Except.ok.inj (hp₁.symm.trans hprops₁)⟩
  refine ⟨disk, t, hopened, (hlisting ["--no-cache"]).trans ?_⟩
  rw [show t.nodes.size = 2 from hsize]
  cases e₀
  cases e₁
  obtain ⟨⟨rfl, rfl⟩, ⟨rfl, rfl⟩, ⟨rfl, rfl⟩, rfl, rfl⟩ := And.intro hnodes (And.intro hdepths hsaid)
  decide

end Realm.NodeFile
