/-
  Realm.Proofs.TileMap.SaveLoad — a map that is saved, loaded again.

  A saved map is a forest of three levels: the world, its kept tiles, their items.  Saving appends the
  bytes of that forest; each tree that a load meets on its walk over it is a good tile, or an item that can
  be read.  What a tile or an item comes to is said by `Tile.reread` and `Item.reread`.

  Main statements:
  * `save_holds` — saving leaves a file that holds the forest of the map;
  * `tileIn_savedTile`, `tileReport_savedTile` — a saved tile loads with all of its items;
  * `load_save` — a saved map loads, without a fault, to its kept tiles.
-/
import Mathlib.Algebra.GroupWithZero.Nat
import Realm.Proofs.Item.Records
import Realm.Proofs.TileMap.Loading

namespace Realm

/-- **The tile that a saved one gives:** its flags and its items as they are read back, and nobody on
    it. -/
def Tile.reread (c : Catalogue) (t : Tile) : Tile :=
  { flags := t.flags, items := t.items.map (Item.reread c) }

/-- **The map that a saved one gives:** its kept tiles as they are read back. -/
def TileMap.reread (m : TileMap) : TileMap :=
  { m with
    tiles := m.tiles.filterMap fun _ t => if t.isStatic then none else some (t.reread m.catalogue) }

theorem TileMap.tile?_reread (m : TileMap) (p : Position) :
    m.reread.tile? p
      = (m.tile? p).bind fun t => if t.isStatic then none else some (t.reread m.catalogue) :=
  Std.ExtTreeMap.getElem?_filterMap'

namespace WorldFile

open NodeFile (Forest Session)
open NodeFile.Session (Appends)

/-! ## §1. The forest of a map. -/

/-- Items next to each other. -/
def itemForest (c : Catalogue) : List Item → Forest (List UInt8)
  | [] => .nil
  | i :: rest => .node itemKind (i.encode c) .nil (itemForest c rest)

/-- Tiles next to each other, over their items. -/
def tileForest (c : Catalogue) : List (Position × Tile) → Forest (List UInt8)
  | [] => .nil
  | e :: rest =>
    .node tileKind (encodeTile e.1 e.2.flags) (itemForest c e.2.items) (tileForest c rest)

/-- **The forest of a map:** one world over its kept tiles. -/
def worldForest (m : TileMap) : Forest (List UInt8) :=
  .node worldKind (encodeHeader (keptTiles m).length) (tileForest m.catalogue (keptTiles m)) .nil

/-! ## §2. Saving. -/

section

open NodeFile.Session

theorem appends_items (c : Catalogue) (items : List Item) :
    Appends (items.forM (writeItem c)) (itemForest c items).written.bytes := by
  induction items with
  | nil => exact appends_pure
  | cons i items ih =>
    have hinner : Appends (pure ()) (Forest.nil : Forest (List UInt8)).written.bytes := appends_pure
    have hitem : Appends (writeItem c i) (Forest.node itemKind (i.encode c) .nil .nil).written.bytes :=
      appends_node itemKind (appends_setProps (i.encode c)) hinner
    exact (hitem.andThen ih).congr (bytes_behind _ _ _ _)

theorem appends_tiles (c : Catalogue) (tiles : List (Position × Tile)) :
    Appends (tiles.forM fun (p, t) => writeTile c p t) (tileForest c tiles).written.bytes := by
  induction tiles with
  | nil => exact appends_pure
  | cons e tiles ih =>
    have htile := appends_node tileKind (appends_setProps (encodeTile e.1 e.2.flags))
      (appends_items c e.2.items)
    exact (htile.andThen ih).congr (bytes_behind _ _ _ _)

/-- **A saved map** is in its file, as the bytes of its forest behind the header. -/
theorem save_holds (d : Disk) (path : String) (m : TileMap) (hroom : (d.create? path).isSome) :
    ∃ d', save d path m = (.ok (keptTiles m).length, d')
      ∧ d'.Holds path (NodeFile.headerBytes ++ (worldForest m).written.bytes).toArray := by
  have hkey := Disk.isSome_fileKey? hroom
  have hbody := appends_node worldKind (appends_setProps (encodeHeader (keptTiles m).length))
    (appends_tiles m.catalogue (keptTiles m))
  obtain ⟨s', hperform, hclosed, hholds⟩ := perform_writeFile hkey (writingTo?_on_ne hkey) hbody
  have hsame : (Session.on d).perform (writeMap path m) = (.ok (), s') := by
    rw [← hperform]
    simp only [writeMap, writeFile, bind_assoc]
  refine ⟨s'.disk, ?_, hholds⟩
  simp only [save, hsame, close, hclosed]

end

/-! ## §3. Tiles and their flags. -/

theorem ofBits_toBits (f : TileFlags) : TileFlags.ofBits f.toBits = f := by
  obtain ⟨protectionZone, noPvpZone, pvpZone, noLogout, refresh⟩ := f
  revert protectionZone noPvpZone pvpZone noLogout refresh
  decide

/-- The properties of a tile are read back. -/
theorem decodeTile?_encodeTile (p : Position) (flags : TileFlags) :
    decodeTile? (.ofBytes (encodeTile p flags)) = some (p, flags) := by
  have hbits := Cursor.u32?_littleEndian 5 [] flags.toBits
  rw [List.append_nil] at hbits
  simp only [decodeTile?, encodeTile, Cursor.ofBytes, List.append_assoc, Cursor.u16?_littleEndian,
    Cursor.u8?_littleEndian, hbits, Option.bind_eq_bind, Option.bind_some, ofBits_toBits]
  rfl

/-- A tile's bytes name its place and set its flags. -/
theorem placeIn_flagsIn_encodeTile (p : Position) (flags : TileFlags) :
    9 ≤ (encodeTile p flags).length ∧ placeIn (encodeTile p flags) = p
      ∧ flagsIn (encodeTile p flags) = flags := by
  have hread := decodeTile?_encodeTile p flags
  rw [decodeTile?_eq] at hread
  split at hread
  · rename_i hlength
    obtain ⟨hplace, hflags⟩ := Prod.mk.inj (Option.some.inj hread)
    exact ⟨hlength, hplace, hflags⟩
  · cases hread

/-! ## §4. Loading. -/

/-- The tree of an item. -/
def savedItem (c : Catalogue) (i : Item) : FileTree := ⟨itemKind, i.encode c, .nil⟩

/-- The tree of a tile with its place. -/
def savedTile (c : Catalogue) (e : Position × Tile) : FileTree :=
  ⟨tileKind, encodeTile e.1 e.2.flags, itemForest c e.2.items⟩

theorem trees_itemForest (c : Catalogue) (items : List Item) :
    (itemForest c items).trees = items.map (savedItem c) := by
  induction items with
  | nil => rfl
  | cons i items ih => rw [itemForest, Forest.trees, ih, List.map_cons, savedItem]

theorem trees_tileForest (c : Catalogue) (tiles : List (Position × Tile)) :
    (tileForest c tiles).trees = tiles.map (savedTile c) := by
  induction tiles with
  | nil => rfl
  | cons e tiles ih => rw [tileForest, Forest.trees, ih, List.map_cons, savedTile]

/-- **A saved item is read whole,** and has nothing inside. -/
theorem parsed?_savedItem (c : Catalogue) (i : Item) :
    ∃ cursor, parsed? c (savedItem c i) = some ⟨i.reread c, none, cursor⟩ := by
  have hdecode := i.decode_encode c 0 []
  rw [List.append_nil] at hdecode
  refine ⟨⟨0 + (i.encode c).length, []⟩, ?_⟩
  show (if itemKind = itemKind then (Item.decode c ⟨0, i.encode c⟩).toOption else none) = _
  rw [if_pos rfl, hdecode]
  rfl

/-- Saved items are all read, in their order. -/
theorem items_savedItems (c : Catalogue) (items : List Item) :
    ((items.map (savedItem c)).filterMap (parsed? c)).map DecodedItem.item
      = items.map (Item.reread c) := by
  induction items with
  | nil => rfl
  | cons i items ih =>
    obtain ⟨cursor, hparsed⟩ := parsed?_savedItem c i
    rw [List.map_cons, List.filterMap_cons_some hparsed, List.map_cons, List.map_cons, ih]

/-- Saved items add themselves to a report, and nothing else. -/
theorem sum_savedItems (c : Catalogue) (p : Position) (items : List Item) :
    Report.sum ((items.map (savedItem c)).map (itemReport c p)) = { items := items.length } := by
  induction items with
  | nil => rfl
  | cons i items ih =>
    obtain ⟨cursor, hparsed⟩ := parsed?_savedItem c i
    have hreport : itemReport c p (savedItem c i) = { items := 1 } := by
      simp [itemReport, nestedIn, hparsed]
    rw [List.map_cons, List.map_cons, Report.sum_cons, ih, hreport]
    simp [Report.add, Nat.add_comm]

theorem isGood_savedTile (c : Catalogue) (e : Position × Tile) : IsGood (savedTile c e) :=
  ⟨rfl, (placeIn_flagsIn_encodeTile e.1 e.2.flags).1⟩

/-- **A saved tile** makes the tile that is read back. -/
theorem tileIn_savedTile (c : Catalogue) (e : Position × Tile) :
    tileIn c (savedTile c e) = e.2.reread c := by
  have hflags := (placeIn_flagsIn_encodeTile e.1 e.2.flags).2.2
  rw [tileIn, itemsIn, savedTile, trees_itemForest, items_savedItems, hflags]
  rfl

/-- **A saved tile** adds itself and its items to a report. -/
theorem tileReport_savedTile (c : Catalogue) (e : Position × Tile) :
    tileReport c (savedTile c e) = { tiles := 1, items := e.2.items.length } := by
  rw [tileReport, if_pos (isGood_savedTile c e), savedTile, trees_itemForest, sum_savedItems]
  simp [Report.add]

/-- Items on tiles. -/
def itemCount (tiles : List (Position × Tile)) : Nat := (tiles.map fun e => e.2.items.length).sum

/-- **The tiles of a world** are all taken over, and nothing is skipped. -/
theorem sum_savedTiles (c : Catalogue) (tiles : List (Position × Tile)) :
    Report.sum ((tiles.map (savedTile c)).map (tileReport c))
      = { tiles := tiles.length, items := itemCount tiles } := by
  induction tiles with
  | nil => rfl
  | cons e tiles ih =>
    rw [List.map_cons, List.map_cons, Report.sum_cons, ih, tileReport_savedTile]
    simp [Report.add, itemCount, Nat.add_comm]

/-- **A saved tile** takes its place in a map as it is read back. -/
theorem place_savedTile (c : Catalogue) (m : TileMap) (e : Position × Tile) :
    place c m (savedTile c e) = m.setTile e.1 (e.2.reread c) := by
  rw [place, if_pos (isGood_savedTile c e), tileIn_savedTile, savedTile,
    (placeIn_flagsIn_encodeTile e.1 e.2.flags).2.1]

/-! ## §5. There and back. -/

/-- Putting tiles into a map one by one. -/
theorem foldl_setTile (c : Catalogue) (tiles : List (Position × Tile)) (m : TileMap) :
    tiles.foldl (fun m e => m.setTile e.1 (e.2.reread c)) m
      = { m with tiles := m.tiles.insertMany (tiles.map fun e => (e.1, e.2.reread c)) } := by
  induction tiles generalizing m with
  | nil => rfl
  | cons e tiles ih =>
    rw [List.foldl_cons, ih, List.map_cons, Std.ExtTreeMap.insertMany_cons]
    rfl

/-- The tiles of a map, put into an empty one, make up the map again: no place occurs twice. -/
theorem insertMany_toList (tiles : Std.ExtTreeMap Position Tile) :
    (∅ : Std.ExtTreeMap Position Tile).insertMany tiles.toList = tiles := by
  apply Std.ExtTreeMap.ext_getElem?
  intro p
  cases hp : tiles[p]? with
  | none =>
    rw [Std.ExtTreeMap.getElem?_insertMany_list_of_contains_eq_false]
    · rfl
    · rw [Std.ExtTreeMap.map_fst_toList_eq_keys, Std.ExtTreeMap.contains_keys,
        Std.ExtTreeMap.contains_eq_isSome_getElem?, hp]
      rfl
  | some t =>
    exact Std.ExtTreeMap.getElem?_insertMany_list_of_mem Std.ReflCmp.compare_self
      Std.ExtTreeMap.distinct_keys_toList (Std.ExtTreeMap.mem_toList_iff_getElem?_eq_some.mpr hp)

/-- **The kept tiles, changed one by one,** are those of one map. -/
theorem map_keptTiles (m : TileMap) (change : Tile → Tile) :
    (keptTiles m).map (fun e => (e.1, change e.2))
      = (m.tiles.filterMap fun _ t => if t.isStatic then none else some (change t)).toList := by
  rw [Std.ExtTreeMap.toList_filterMap, keptTiles, TileMap.toList, ← List.filterMap_eq_map,
    List.filterMap_filter]
  congr 1
  funext e
  cases e.2.isStatic <;> rfl

/-- **The kept tiles make up the map that is read back.** -/
theorem foldl_keptTiles (m : TileMap) :
    (keptTiles m).foldl (fun m' e => m'.setTile e.1 (e.2.reread m.catalogue)) (.empty m.catalogue)
      = m.reread := by
  rw [foldl_setTile, map_keptTiles]
  show TileMap.mk (Std.ExtTreeMap.insertMany ∅ m.reread.tiles.toList) m.catalogue = _
  rw [insertMany_toList]
  rfl

/-- **A file that holds a map's forest loads** to the map that is read back. -/
theorem load_of_holds {d : Disk} {path : String} (m : TileMap) (caching : Bool)
    (h : d.Holds path (NodeFile.headerBytes ++ (worldForest m).written.bytes).toArray) :
    load d path m.catalogue caching = .ok (m.reread,
      { tiles := (keptTiles m).length, items := itemCount (keptTiles m) }) := by
  have hcomplete := NodeFile.complete_bytes (worldForest m).valid_written nofun
  have hload := load_of_complete
    ⟨worldKind, encodeHeader (keptTiles m).length, tileForest m.catalogue (keptTiles m)⟩ m.catalogue
    caching h.lookup rfl hcomplete (worldForest m).said_written
  have hformat : [1, 0] <+: encodeHeader (keptTiles m).length := ⟨_, rfl⟩
  rw [hload, if_neg (not_not_intro rfl), if_neg (not_not_intro hformat), trees_tileForest,
    sum_savedTiles, List.foldl_map]
  simp only [place_savedTile, foldl_keptTiles]

/-- **A saved map loads,** through a cache or without, to a map with its kept tiles and no others: every
    node is taken over and none is at fault.  On each tile are the flags and, in their order, the items
    that its own items' bytes give; nobody stands there. -/
theorem load_save (d : Disk) (path : String) (m : TileMap) (caching : Bool)
    (hroom : (d.create? path).isSome) :
    ∃ d' m' report, save d path m = (.ok (keptTiles m).length, d')
      ∧ load d' path m.catalogue caching = .ok (m', report)
      ∧ report.tiles = (keptTiles m).length ∧ report.items = itemCount (keptTiles m)
      ∧ report.skipped = 0 ∧ report.faults = [] ∧ m'.catalogue = m.catalogue
      ∧ (∀ p, (m'.tile? p).isSome ↔ ∃ t, m.tile? p = some t ∧ t.isStatic = false)
      ∧ ∀ p t t', m.tile? p = some t → m'.tile? p = some t' →
          t'.isStatic = false ∧ t'.creatures = [] ∧ t'.flags = t.flags
            ∧ t'.items.map Except.ok = t.items.map fun i =>
              (Item.decode m.catalogue (.ofBytes (i.encode m.catalogue))).map DecodedItem.item := by
  obtain ⟨d', hsave, hholds⟩ := save_holds d path m hroom
  refine ⟨d', m.reread, _, hsave, load_of_holds m caching hholds, rfl, rfl, rfl, rfl, rfl, ?_, ?_⟩
  · intro p
    rw [TileMap.tile?_reread]
    cases m.tile? p with
    | none => simp
    | some t => cases hstatic : t.isStatic <;> simp [hstatic]
  · intro p t t' ht ht'
    rw [TileMap.tile?_reread, ht, Option.bind_some] at ht'
    by_cases hstatic : t.isStatic
    · rw [if_pos hstatic] at ht'
      cases ht'
    · rw [if_neg hstatic] at ht'
      obtain rfl := Option.some.inj ht'
      refine ⟨rfl, rfl, rfl, ?_⟩
      show (t.items.map (Item.reread m.catalogue)).map Except.ok = _
      rw [List.map_map]
      apply List.map_congr_left
      intro i _
      have hdecode := i.decode_encode m.catalogue 0 []
      rw [List.append_nil] at hdecode
      simp only [Function.comp_apply, Cursor.ofBytes, hdecode, Except.map]

/-- A tile whose place and item are spelled with marks, beside one that is not kept. -/
theorem load_save_marks :
    let t : Tile := { items := [⟨0xFFFE, 0, .empty⟩] }
    let m := ((TileMap.empty .empty).setTile ⟨0xFEFF, 0xFD, 7⟩ t).setTile ⟨0, 0, 7⟩ .placeholder
    (Disk.empty.create? "w").isSome ∧ ∃ d' m' report, save .empty "w" m = (.ok 1, d')
      ∧ load d' "w" .empty true = .ok (m', report) ∧ report.tiles = 1 ∧ report.items = 1
      ∧ (m'.tile? ⟨0xFEFF, 0xFD, 7⟩).isSome := by
  intro t m
  have hroom := Disk.isSome_create?_empty
  have hkept : keptTiles m = [(⟨0xFEFF, 0xFD, 7⟩, t)] := by rfl
  obtain ⟨d', m', report, hsave, hload, htiles, hitems, _, _, _, hplaces, _⟩ :=
    load_save .empty "w" m true hroom
  rw [hkept] at hsave htiles hitems
  exact ⟨hroom, d', m', report, hsave, hload, htiles, hitems, (hplaces _).mpr ⟨t, rfl, rfl⟩⟩

end WorldFile

end Realm
