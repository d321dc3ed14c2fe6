/-
  Realm.Proofs.TileMap.Loading — a load as a walk over the trees of a file.

  A load walks over the trees inside the root, and over the trees inside each tile that it can read.  Every
  tree on the way adds its own part to one report, whatever stands before it, and a good tile takes its
  place in the map.

  Main statements:
  * `decodeTile?_eq` — nine bytes make a tile;
  * `readItems_of_forest`, `readTiles_of_forest` — the report grows by what the trees add;
  * `load_of_complete` — a load is refused by its root alone, and else is what its trees make.
-/
import Realm.Proofs.Blob
import Realm.Proofs.NodeFile.RoundTrip
import Realm.TileMap.WorldFile

namespace Realm.WorldFile

open NodeFile (Arena Complete Forest Session Shows headerBytes)
open NodeFile.Session (propsIn)

/-! ## §1. What the bytes of a tile say. -/

/-- The number that some bytes of a blob spell. -/
def numberAt (props : List UInt8) (place width : Nat) : Nat :=
  ofLittleEndian ((props.drop place).take width)

/-- The place that a tile's bytes name: two bytes of column, two of row and one of floor. -/
def placeIn (props : List UInt8) : Position :=
  ⟨.ofNat (numberAt props 0 2), .ofNat (numberAt props 2 2), .ofNat (numberAt props 4 1)⟩

/-- The flags that a tile's bytes set, in the four bytes behind the place. -/
def flagsIn (props : List UInt8) : TileFlags := .ofBits (.ofNat (numberAt props 5 4))

/-- A read in the middle of a blob, and what is made of it. -/
theorem bind_said?_drop {α β : Type} (props : List UInt8) (place : Nat) {width : Nat}
    (hwidth : 0 < width) (say : List UInt8 → α) (next : α × Cursor → Option β) :
    ((Cursor.mk place (props.drop place)).said? width say).bind next
      = if place + width ≤ props.length then
          next (say ((props.drop place).take width), ⟨place + width, props.drop (place + width)⟩)
        else none := by
  have henough : width ≤ (props.drop place).length ↔ place + width ≤ props.length := by
    rw [List.length_drop]
    omega
  rw [Cursor.said?_eq]
  simp only [henough, Cursor.advance, List.drop_drop]
  split <;> rfl

/-- **The bytes of a tile** are nine or more, of which the first nine count. -/
theorem decodeTile?_eq (props : List UInt8) : decodeTile? (.ofBytes props)
    = if 9 ≤ props.length then some (placeIn props, flagsIn props) else none := by
  have hstart : Cursor.ofBytes props = ⟨0, props.drop 0⟩ := rfl
  have htwo : 0 < 2 := by decide
  simp only [decodeTile?, hstart, Cursor.u16?_eq, Cursor.u8?_eq, Cursor.u32?_eq, Option.bind_eq_bind,
    bind_said?_drop _ _ htwo, bind_said?_drop _ _ Nat.one_pos, bind_said?_drop _ _ (Nat.succ_pos 3)]
  by_cases hlength : 9 ≤ props.length
  · rw [if_pos (by omega), if_pos (by omega), if_pos (by omega), if_pos hlength, if_pos hlength]
    rfl
  · -- whichever read it is that fails, nothing is made of the others
    rw [if_neg hlength]
    simp only [Nat.reduceAdd, if_neg hlength, ite_self]

/-- **The header of a world** begins with the number of its format. -/
theorem header_eq_format_iff (props : List UInt8) :
    (Cursor.ofBytes props).u16?.map Prod.fst = some format ↔ [1, 0] <+: props := by
  rw [Cursor.u16?_eq, Cursor.said?_eq]
  constructor
  · intro hformat
    split at hformat
    · rename_i hlength
      have htaken : (props.take 2).length = 2 := List.length_take_of_le hlength
      have hlt : ofLittleEndian (props.take 2) < UInt16.size := ofLittleEndian_lt_capacity htaken
      have hone : ofLittleEndian (props.take 2) = 1 := by
        have hword : UInt16.ofNat (ofLittleEndian (props.take 2)) = 1 := Option.some.inj hformat
        rw [← UInt16.toNat_inj, UInt16.toNat_ofNat_of_lt' hlt] at hword
        exact hword
      have hbytes : [1, 0] = props.take 2 := by
        rw [← littleEndian_ofLittleEndian (props.take 2), htaken, hone]
        rfl
      rw [hbytes]
      exact List.take_prefix 2 props
    · cases hformat
  · rintro ⟨rest, rfl⟩
    rfl

/-! ## §2. What a tree adds to a report. -/

namespace Report

/-- Two reports in one, the faults of the first one first. -/
def add (r s : Report) : Report :=
  ⟨r.tiles + s.tiles, r.items + s.items, r.skipped + s.skipped, r.faults ++ s.faults⟩

/-- Reports in one. -/
def sum (rs : List Report) : Report := rs.foldr add {}

theorem sum_cons (r : Report) (rs : List Report) : sum (r :: rs) = r.add (sum rs) := rfl

@[simp] theorem empty_add (r : Report) : add {} r = r := by
  simp [add]

@[simp] theorem add_empty (r : Report) : r.add {} = r := by
  simp [add]

theorem add_assoc (r s t : Report) : (r.add s).add t = r.add (s.add t) := by
  simp [add, Nat.add_assoc]

theorem keepTile_eq (r : Report) : r.keepTile = r.add { tiles := 1 } := by
  simp [keepTile, add]

theorem keepItem_eq (r : Report) : r.keepItem = r.add { items := 1 } := by
  simp [keepItem, add]

theorem skip_eq (r : Report) (n : Nat) : r.skip n = r.add { skipped := n } := by
  simp [skip, add]

theorem blame_eq (r : Report) (f : Fault) : r.blame f = r.add { skipped := 1, faults := [f] } := by
  simp [blame, add]

end Report

/-- A tree as a file says it: each node has its property bytes. -/
abbrev FileTree := NodeFile.Tree (List UInt8)

/-- The item that a tree inside a tile stands for, when it is of the kind and can be read. -/
def parsed? (c : Catalogue) (t : FileTree) : Option DecodedItem :=
  if t.kind = itemKind then (Item.decode c (.ofBytes t.label)).toOption else none

/-- Why a tree inside a tile cannot be read, when it is of the kind. -/
def itemFault? (c : Catalogue) (p : Position) (t : FileTree) : Option Fault :=
  if t.kind = itemKind then
    match Item.decode c (.ofBytes t.label) with
    | .error e => some (.itemMalformed p e)
    | .ok _ => none
  else none

/-- The trees passed over inside an item: those of a container. -/
def nestedIn (c : Catalogue) (t : FileTree) : Nat :=
  match parsed? c t with
  | some decoded => if decoded.inside.isSome then t.inside.trees.length else 0
  | none => 0

/-- **What a tree inside a tile adds:** an item with what is passed over in it, or a tree passed over. -/
def itemReport (c : Catalogue) (p : Position) (t : FileTree) : Report :=
  if (parsed? c t).isSome then { items := 1, skipped := nestedIn c t }
  else { skipped := 1, faults := (itemFault? c p t).toList }

/-- **A good tile** is of the kind and has all its bytes. -/
def IsGood (t : FileTree) : Prop := t.kind = tileKind ∧ 9 ≤ t.label.length

instance : DecidablePred IsGood := fun _ => inferInstanceAs (Decidable (_ ∧ _))

/-- The items of a tile, in order. -/
def itemsIn (c : Catalogue) (t : FileTree) : List Item :=
  (t.inside.trees.filterMap (parsed? c)).map DecodedItem.item

/-- The tile that a tree makes. -/
def tileIn (c : Catalogue) (t : FileTree) : Tile := { flags := flagsIn t.label, items := itemsIn c t }

/-- **What a tree inside the root adds:** a tile with all that is inside it, or a tree passed over, which
    is a fault when it is a tile whose bytes are too few. -/
def tileReport (c : Catalogue) (t : FileTree) : Report :=
  if IsGood t then (Report.sum (t.inside.trees.map (itemReport c (placeIn t.label)))).add { tiles := 1 }
  else { skipped := 1, faults := if t.kind = tileKind then [.tileTruncated] else [] }

/-! ## §3. The walk. -/

section

variable {data : Array UInt8} {nodes : Arena}

/-- A node's properties are read as a blob, and the session reads on. -/
theorem propsCursor_reads {s : Session} {bytes : List UInt8} {i : Nat} (hs : s.Reads data)
    (hnodes : s.nodes = nodes) (hprops : propsIn data nodes i = .ok bytes) :
    ∃ s', s.perform (Session.propsCursor i) = (.ok (.ofBytes bytes), s') ∧ s'.Reads data
      ∧ s'.nodes = nodes := by
  obtain ⟨s', hget, hreads, hsame, _⟩ := Session.getProps_reads hs i
  rw [hnodes] at hget hsame
  rw [hprops] at hget
  refine ⟨s', ?_, hreads, hsame⟩
  simp only [Session.propsCursor, Session.perform_map, hget]

/-- **One tree inside a tile:** its item is kept, if it has one, and the report grows by what it adds. -/
theorem readItems_cons (c : Catalogue) (p : Position) (t : FileTree) {i : Nat} {l : Loading}
    (hreads : l.session.Reads data) (hnodes : l.session.nodes = nodes)
    (hkind : nodes.kind? i = some t.kind) (hprops : propsIn data nodes i = .ok t.label)
    (hinside : (nodes.children i).length = t.inside.trees.length) (rest : List Nat)
    (done : List Item) :
    ∃ s', readItems c p (i :: rest) done l
        = readItems c p rest (((parsed? c t).map DecodedItem.item).toList ++ done)
          ⟨s', l.report.add (itemReport c p t)⟩
      ∧ s'.Reads data ∧ s'.nodes = nodes := by
  rw [readItems, hnodes, hkind]
  -- only a tree of the kind has its properties read; any other leaves the session as it is
  by_cases hitem : t.kind = itemKind
  · obtain ⟨s', hcursor, hreads', hnodes'⟩ := propsCursor_reads hreads hnodes hprops
    refine ⟨s', ?_, hreads', hnodes'⟩
    rw [if_neg (not_not_intro (congrArg some hitem)), hcursor]
    simp only [hnodes', hinside]
    cases hdecode : Item.decode c (.ofBytes t.label) with
    | error e =>
      have hparsed : parsed? c t = none := by
        rw [parsed?, if_pos hitem, hdecode]
        rfl
      have hreport : itemReport c p t = { skipped := 1, faults := [.itemMalformed p e] } := by
        simp [itemReport, hparsed, itemFault?, hitem, hdecode]
      show readItems c p rest done ⟨s', l.report.blame (.itemMalformed p e)⟩ = _
      rw [hparsed, hreport, Report.blame_eq]
      rfl
    | ok decoded =>
      have hparsed : parsed? c t = some decoded := by
        rw [parsed?, if_pos hitem, hdecode]
        rfl
      have hnested : nestedIn c t = if decoded.inside.isSome then t.inside.trees.length else 0 := by
        rw [nestedIn, hparsed]
      have hreport : l.report.keepItem.skip (nestedIn c t) = l.report.add (itemReport c p t) := by
        rw [itemReport, if_pos (by rw [hparsed]; rfl), Report.keepItem_eq, Report.skip_eq, Report.add_assoc]
        simp [Report.add]
      -- the walk asks the arena for what is inside, and the arena shows the tree
      rw [← hreport, hparsed, hnested]
      rfl
  · refine ⟨l.session, ?_, hreads, hnodes⟩
    have hparsed : parsed? c t = none := if_neg hitem
    have hreport : itemReport c p t = { skipped := 1 } := by
      simp [itemReport, hparsed, itemFault?, hitem]
    rw [if_pos (fun h => hitem (Option.some.inj h)), hparsed, hreport, Report.skip_eq]
    rfl

/-- **The trees inside a tile** are taken one by one: the items among them are kept, in order, and the
    report grows by what each of them adds. -/
theorem readItems_of_forest (c : Catalogue) (p : Position) (f : Forest (List UInt8)) :
    ∀ (i : Nat) (done : List Item) (l : Loading), l.session.Reads data → l.session.nodes = nodes →
      f.size ≤ nodes.size → Shows nodes (propsIn data nodes) f i →
      ∃ s', readItems c p (f.roots i) done l
          = (.ok (done.reverse ++ (f.trees.filterMap (parsed? c)).map DecodedItem.item),
            ⟨s', l.report.add (Report.sum (f.trees.map (itemReport c p)))⟩)
        ∧ s'.Reads data ∧ s'.nodes = nodes := by
  -- on the forest: the trees behind the first one are the next step, those inside it are not walked
  induction f with
  | nil =>
    intro i done l hreads hnodes _ _
    refine ⟨l.session, ?_, hreads, hnodes⟩
    simp [Forest.roots, Forest.trees, readItems, Report.sum]
  | node kind props inside behind _ ih =>
    intro i done l hreads hnodes hsize hshows
    rw [Forest.size] at hsize
    have hchildren := NodeFile.children_of_shows (by omega) hshows
    obtain ⟨hkind, hprops, _, _, _, hbehind⟩ := hshows
    obtain ⟨s₁, hfirst, hreads₁, hnodes₁⟩ := readItems_cons c p ⟨kind, props, inside⟩ hreads hnodes
      hkind hprops (by rw [hchildren, Forest.length_roots]) (behind.roots (i + 1 + inside.size)) done
    obtain ⟨s', hrest, hreads', hnodes'⟩ := ih (i + 1 + inside.size) _ ⟨s₁, _⟩ hreads₁ hnodes₁
      (by omega) hbehind
    refine ⟨s', ?_, hreads', hnodes'⟩
    show readItems c p (i :: behind.roots (i + 1 + inside.size)) done l = _
    rw [hfirst, hrest, Forest.trees, List.map_cons, Report.sum_cons, Report.add_assoc]
    cases hparsed : parsed? c ⟨kind, props, inside⟩ with
    | none => rw [List.filterMap_cons_none hparsed]; rfl
    | some decoded => rw [List.filterMap_cons_some hparsed]; simp

/-- **One tile that can be read** comes with its items, and the report grows by what those add. -/
theorem readTile_of_tree (c : Catalogue) (t : FileTree) {i : Nat} {l : Loading}
    {behind : Forest (List UInt8)} (hreads : l.session.Reads data) (hnodes : l.session.nodes = nodes)
    (hsize : t.inside.size ≤ nodes.size)
    (hshows : Shows nodes (propsIn data nodes) (.node t.kind t.label t.inside behind) i) :
    ∃ s', readTile c i l
        = (if 9 ≤ t.label.length then
            (.ok (placeIn t.label, tileIn c t), ⟨s', l.report.add
              (Report.sum (t.inside.trees.map (itemReport c (placeIn t.label))))⟩)
          else (.error .tileTruncated, ⟨s', l.report⟩))
      ∧ s'.Reads data ∧ s'.nodes = nodes := by
  have hchildren := NodeFile.children_of_shows hsize hshows
  obtain ⟨_, hprops, _, _, hinside, _⟩ := hshows
  obtain ⟨s₁, hcursor, hreads₁, hnodes₁⟩ := propsCursor_reads hreads hnodes hprops
  by_cases hlength : 9 ≤ t.label.length
  · obtain ⟨s', hitems, hreads', hnodes'⟩ := readItems_of_forest c (placeIn t.label) t.inside (i + 1) []
      { l with session := s₁ } hreads₁ hnodes₁ hsize hinside
    refine ⟨s', ?_, hreads', hnodes'⟩
    simp only [readTile, hcursor, decodeTile?_eq, if_pos hlength, hnodes₁, hchildren, hitems]
    rfl
  · refine ⟨s₁, ?_, hreads₁, hnodes₁⟩
    simp only [readTile, hcursor, decodeTile?_eq, if_neg hlength]

/-- A good tile takes its place in a map; any other tree leaves the map as it is. -/
def place (c : Catalogue) (m : TileMap) (t : FileTree) : TileMap :=
  if IsGood t then m.setTile (placeIn t.label) (tileIn c t) else m

/-- **One tree inside the root** takes its place in the map, and the report grows by what it adds. -/
theorem readTiles_cons (c : Catalogue) (t : FileTree) {i : Nat} {m : TileMap} {l : Loading}
    {behind : Forest (List UInt8)} (hreads : l.session.Reads data) (hnodes : l.session.nodes = nodes)
    (hsize : t.inside.size ≤ nodes.size)
    (hshows : Shows nodes (propsIn data nodes) (.node t.kind t.label t.inside behind) i)
    (rest : List Nat) :
    ∃ s', readTiles c (i :: rest) m l
        = readTiles c rest (place c m t) ⟨s', l.report.add (tileReport c t)⟩
      ∧ s'.Reads data ∧ s'.nodes = nodes := by
  rw [readTiles, hnodes, hshows.1]
  by_cases htile : t.kind = tileKind
  · obtain ⟨s', hread, hreads', hnodes'⟩ := readTile_of_tree c t hreads hnodes hsize hshows
    refine ⟨s', ?_, hreads', hnodes'⟩
    rw [if_neg (not_not_intro (congrArg some htile)), hread]
    by_cases hlength : 9 ≤ t.label.length
    · have hgood : IsGood t := ⟨htile, hlength⟩
      rw [if_pos hlength, place, if_pos hgood, tileReport, if_pos hgood, ← Report.add_assoc,
        ← Report.keepTile_eq]
    · -- the tile is blamed, and nothing of what is inside it was looked at
      have hgood : ¬ IsGood t := fun h => hlength h.2
      rw [if_neg hlength, place, if_neg hgood, tileReport, if_neg hgood, if_pos htile]
      show readTiles c rest m ⟨s', l.report.blame .tileTruncated⟩ = _
      rw [Report.blame_eq]
  · have hgood : ¬ IsGood t := fun h => htile h.1
    refine ⟨l.session, ?_, hreads, hnodes⟩
    rw [if_pos (fun h => htile (Option.some.inj h)), Report.skip_eq, place, if_neg hgood, tileReport,
      if_neg hgood, if_neg htile]

/-- **The trees inside the root** are taken one by one. -/
theorem readTiles_of_forest (c : Catalogue) (f : Forest (List UInt8)) :
    ∀ (i : Nat) (m : TileMap) (l : Loading), l.session.Reads data → l.session.nodes = nodes →
      f.size ≤ nodes.size → Shows nodes (propsIn data nodes) f i →
      readTiles c (f.roots i) m l
        = (f.trees.foldl (place c) m, l.report.add (Report.sum (f.trees.map (tileReport c)))) := by
  -- on the forest, as above; what is inside the first tree was walked over with it
  induction f with
  | nil =>
    intro i m l _ _ _ _
    simp [Forest.roots, Forest.trees, readTiles, Report.sum]
  | node kind props inside behind _ ih =>
    intro i m l hreads hnodes hsize hshows
    rw [Forest.size] at hsize
    obtain ⟨s', hfirst, hreads', hnodes'⟩ := readTiles_cons c ⟨kind, props, inside⟩ (m := m) hreads
      hnodes (by simp only; omega) hshows (behind.roots (i + 1 + inside.size))
    obtain ⟨_, _, _, _, _, hbehind⟩ := hshows
    show readTiles c (i :: behind.roots (i + 1 + inside.size)) m l = _
    rw [hfirst, ih _ _ ⟨s', _⟩ hreads' hnodes' (by omega) hbehind, Forest.trees, List.foldl_cons,
      List.map_cons, Report.sum_cons, Report.add_assoc]

end

/-! ## §4. The load. -/

/-- **A load of a file that opens** is refused by its root alone, and else is what the trees inside the
    root make. -/
theorem load_of_complete {d : Disk} {path : String} {data : Array UInt8} {body : List UInt8}
    {f : Forest NodeFile.Spelling} {behind : Forest (List UInt8)} (root : FileTree) (c : Catalogue)
    (caching : Bool) (hfile : d.lookup path = .file data) (hsplit : data.toList = headerBytes ++ body)
    (hbody : Complete body f) (hsaid : f.said = .node root.kind root.label root.inside behind) :
    load d path c caching
      = if root.kind ≠ worldKind then .error (.wrongRoot path (some root.kind))
        else if ¬ [1, 0] <+: root.label then
          .error (.unsupportedFormat ((Cursor.ofBytes root.label).u16?.map Prod.fst))
        else .ok (root.inside.trees.foldl (place c) (.empty c),
          Report.sum (root.inside.trees.map (tileReport c))) := by
  have hclosed : (Session.on d).close.disk.lookup path = .file data := hfile
  obtain ⟨s₁, hopened, hreads₁, hroot, hsize, hshows⟩ :=
    NodeFile.openFile_complete caching hclosed hsplit hbody
  rw [hsaid] at hshows
  have hinner : root.inside.size ≤ s₁.nodes.size := by
    have hsaidSize : f.said.size = f.size := Forest.size_map _ _
    rw [hsize, ← hsaidSize, hsaid, Forest.size]
    omega
  -- the root and its header are read first, then the trees inside it; the trees behind it never
  have hchildren := NodeFile.children_of_shows hinner hshows
  obtain ⟨hkind, hprops, _, _, hinside, _⟩ := hshows
  obtain ⟨s₂, hcursor, hreads₂, hnodes₂⟩ := propsCursor_reads hreads₁ rfl hprops
  have htiles := readTiles_of_forest c root.inside 1 (.empty c) ⟨s₂, {}⟩ hreads₂ hnodes₂ hinner hinside
  simp only [load, hopened, hroot, hkind, hcursor, hnodes₂, hchildren, htiles, ne_eq, Option.some.injEq,
    header_eq_format_iff, Report.empty_add]

end Realm.WorldFile
