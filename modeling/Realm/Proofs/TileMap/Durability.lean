/-
  Realm.Proofs.TileMap.Durability — what saving and loading again, or losing the end of a file, does to
  a map.

  A map that was loaded holds only what a load leaves alone, so another round through a file changes
  nothing.  A saved map is one tree, so its file opens whole or not at all: there is no part of it that
  would pass for a smaller world.

  Main statements:
  * `load_save_settles` — a loaded map is saved and loaded as itself;
  * `truncated_refused` — a saved map whose last bytes are missing does not load.
-/
import Realm.Proofs.Item.Settling
import Realm.Proofs.NodeFile.Truncation
import Realm.Proofs.TileMap.SaveLoad

namespace Realm

/-! ## §1. Saving and loading again. -/

/-- An id that is not known stands for a type without charges. -/
theorem Catalogue.mixesCharges_typeOf {c : Catalogue}
    (hpure : ∀ id t, c.get? id = some t → t.mixesCharges = false) (id : UInt16) :
    (c.typeOf id).mixesCharges = false := by
  unfold typeOf
  cases hknown : c.get? id with
  | none => rfl
  | some t => exact hpure id t hknown

theorem Tile.reread_reread {c : Catalogue} (t : Tile)
    (hpure : ∀ id t, c.get? id = some t → t.mixesCharges = false) :
    (t.reread c).reread c = t.reread c := by
  have hitems : (t.items.map (Item.reread c)).map (Item.reread c) = t.items.map (Item.reread c) := by
    rw [List.map_map]
    exact List.map_congr_left fun i _ =>
      i.reread_reread c (Catalogue.mixesCharges_typeOf hpure i.id)
  show ({ flags := t.flags, items := (t.items.map (Item.reread c)).map (Item.reread c) } : Tile) = _
  rw [hitems]
  rfl

/-- **Reading a map back twice is reading it back once.** -/
theorem TileMap.reread_reread (m : TileMap)
    (hpure : ∀ id t, m.catalogue.get? id = some t → t.mixesCharges = false) :
    m.reread.reread = m.reread := by
  have htiles : m.reread.reread.tiles = m.reread.tiles := by
    apply Std.ExtTreeMap.ext_getElem?
    intro p
    show m.reread.reread.tile? p = m.reread.tile? p
    rw [tile?_reread, tile?_reread]
    -- no tile that was read back is static, so the second round keeps them all
    cases m.tile? p with
    | none => rfl
    | some t =>
      rw [Option.bind_some]
      split
      · rfl
      · exact congrArg some (t.reread_reread hpure)
  show TileMap.mk m.reread.reread.tiles m.catalogue = TileMap.mk m.reread.tiles m.catalogue
  rw [htiles]

namespace WorldFile

open NodeFile (Forest Session headerBytes truncationError)
open NodeFile.Session (writeFile writeForest openFile)

/-- **A map settles in one round:** what a saved map is loaded as is, when it is saved again — to the
    same file or another, on any disk that has room — loaded as itself. -/
theorem load_save_settles (d : Disk) (path : String) (m : TileMap) (caching : Bool)
    (hroom : (d.create? path).isSome)
    (hpure : ∀ id t, m.catalogue.get? id = some t → t.mixesCharges = false) :
    ∃ d' m' report, save d path m = (.ok (keptTiles m).length, d')
      ∧ load d' path m.catalogue caching = .ok (m', report)
      ∧ ∀ (e : Disk) (path' : String) (caching' : Bool), (e.create? path').isSome →
          ∃ e' report', save e path' m' = (.ok (keptTiles m').length, e')
            ∧ load e' path' m.catalogue caching' = .ok (m', report') := by
  obtain ⟨d', hsave, hholds⟩ := save_holds d path m hroom
  refine ⟨d', m.reread, _, hsave, load_of_holds m caching hholds, fun e path' caching' hroom' => ?_⟩
  -- the second file holds the forest of the map that was read back from the first
  obtain ⟨e', hsave', hholds'⟩ := save_holds e path' m.reread hroom'
  have hload := load_of_holds m.reread caching' hholds'
  rw [m.reread_reread hpure] at hload
  exact ⟨e', _, hsave', hload⟩

/-- A scroll whose duration ran out and whose action id is too low to be set: the first round changes
    both, and the second one nothing. -/
theorem load_save_settles_scroll :
    let c : Catalogue := ⟨({} : Std.ExtTreeMap UInt16 ItemType).insert 7
      { id := 7, charges := 3, decayTimeSecs := 60 }⟩
    let i : Item := ⟨7, 0, (Bag.empty.put .duration (.number (-5))).put .actionId (.word 3)⟩
    let m := (TileMap.empty c).setTile ⟨1, 2, 7⟩ { items := [i] }
    (Disk.empty.create? "w").isSome ∧ i.reread c ≠ i
      ∧ (∀ id t, m.catalogue.get? id = some t → t.mixesCharges = false)
      ∧ ∃ d' m' report, save .empty "w" m = (.ok 1, d') ∧ load d' "w" c true = .ok (m', report)
        ∧ ∃ e' report', save .empty "w" m' = (.ok (keptTiles m').length, e')
          ∧ load e' "w" c false = .ok (m', report') := by
  intro c i m
  have hroom := Disk.isSome_create?_empty
  have hchanges : i.reread c ≠ i := by
    intro hsame
    have hraised := congrArg (fun j : Item => j.attributes.lookup .actionId) hsame
    rw [Item.lookup_reread_eq] at hraised
    exact absurd hraised (by decide)
  have hpure : ∀ id t, m.catalogue.get? id = some t → t.mixesCharges = false := by
    intro id t ht
    by_cases hid : id = 7
    · subst hid
      obtain rfl : _ = t := Option.some.inj ((by rfl : m.catalogue.get? 7 = some _).symm.trans ht)
      decide
    · have hempty : m.catalogue.get? id = (none : Option ItemType) := by
        show (({} : Std.ExtTreeMap UInt16 ItemType).insert 7 _)[id]? = none
        rw [Std.ExtTreeMap.getElem?_insert, if_neg (by simpa using Ne.symm hid)]
        rfl
      rw [hempty] at ht
      cases ht
  obtain ⟨d', m', report, hsave, hload, hsettled⟩ := load_save_settles .empty "w" m true hroom hpure
  exact ⟨hroom, hchanges, hpure, d', m', report, hsave, hload, hsettled .empty "w" false hroom⟩

/-! ## §2. Files that lost their end. -/

/-- **A file that was written for one tree** opens whole or not at all, with a cache or without: where
    some of its last bytes are missing, the rest is refused.  So no part of a saved map is loaded as a
    smaller one. -/
theorem truncated_refused (s : Session) (path : String) (hroom : (s.disk.create? path).isSome)
    (hfree : s.writingTo? ≠ s.disk.fileKey? path) :
    (∀ m : TileMap, ∃ d' bytes, save s.disk path m = (.ok (keptTiles m).length, d')
      ∧ d'.lookup path = .file bytes
      ∧ ∀ n < bytes.size, ∀ (e : Disk) (part : String) (c : Catalogue) (caching : Bool),
          e.lookup part = .file (bytes.extract 0 n) →
          load e part c caching = .error (.loadFailed part (truncationError n)))
    ∧ ∀ (kind : UInt8) (pieces : List (List UInt8)) (inside : Forest (List (List UInt8))),
      ∃ s' bytes, s.perform (writeFile path (writeForest (.node kind pieces inside .nil))) = (.ok (), s')
        ∧ s'.disk.lookup path = .file bytes
        ∧ ∀ n < bytes.size, ∀ (t : Session) (part : String) (caching : Bool),
            t.close.disk.lookup part = .file (bytes.extract 0 n) →
            (t.perform (openFile part caching)).1 = .error (truncationError n) := by
  refine ⟨fun m => ?_, fun kind pieces inside => Session.openFile_truncated s path kind pieces inside
    hroom hfree⟩
  -- a map is one tree too, and a load begins with opening its file
  obtain ⟨d', hsave, hholds⟩ := save_holds s.disk path m hroom
  refine ⟨d', _, hsave, hholds.lookup, fun n hn e part c caching hfile => ?_⟩
  have hopened := Session.openFile_of_truncated (t := .on e) caching (worldForest m).valid_written rfl hn
    hfile
  rw [load, hopened]

/-- A tile and an item whose properties are full of reserved bytes, cut behind the header, between an escape
    byte and what it escapes, behind the end of the item, and one byte short. -/
theorem truncated_refused_marks :
    let s : Session := .on .empty
    let m := (TileMap.empty .empty).setTile ⟨0xFEFF, 0xFD, 7⟩ { items := [⟨0xFFFE, 0, .empty⟩] }
    (s.disk.create? "w").isSome ∧ s.writingTo? ≠ s.disk.fileKey? "w"
      ∧ ∃ d' bytes, save s.disk "w" m = (.ok 1, d') ∧ bytes.size = 36
        ∧ d'.lookup "w" = .file bytes
        ∧ load (d'.write "w" (bytes.extract 0 4)) "w" .empty false
          = .error (.loadFailed "w" .invalidFormat)
        ∧ ∀ n ∈ [15, 34, 35], load (d'.write "w" (bytes.extract 0 n)) "w" .empty true
          = .error (.loadFailed "w" .endOfFile) := by
  intro s m
  have hroom := Disk.isSome_create?_empty
  have hfree := Session.writingTo?_on_ne (Disk.isSome_fileKey? hroom)
  have hkept : keptTiles m = [(⟨0xFEFF, 0xFD, 7⟩, { items := [⟨0xFFFE, 0, .empty⟩] })] := by rfl
  obtain ⟨d', hsave, hholds⟩ := save_holds .empty "w" m hroom
  obtain ⟨d'', bytes, hsave', hfile, hrefused⟩ := (truncated_refused s "w" hroom hfree).1 m
  obtain rfl : d' = d'' := congrArg Prod.snd (hsave.symm.trans hsave')
  have hsame : bytes = _ := DiskEntry.file.inj (hfile.symm.trans hholds.lookup)
  have hsize : bytes.size = 36 := by
    rw [hsame, worldForest, hkept]
    decide +kernel
  have hcut : ∀ n, (d'.write "w" (bytes.extract 0 n)).lookup "w" = .file (bytes.extract 0 n) :=
    fun n => hholds.write.lookup
  rw [hkept] at hsave
  refine ⟨hroom, hfree, d', bytes, hsave, hsize, hfile,
    hrefused 4 (by omega) _ "w" .empty false (hcut 4), fun n hn => ?_⟩
  -- none of the cuts is as short as the header
  have hcuts : n < 36 ∧ truncationError n = .endOfFile := by
    simp only [List.mem_cons, List.not_mem_nil, or_false] at hn
    rcases hn with rfl | rfl | rfl <;> decide
  rw [hrefused n (by omega) _ "w" .empty true (hcut n), hcuts.2]

end WorldFile

end Realm
