/-
  Realm.Proofs.TileMap.SavedBytes — a saved file is made of the kept tiles and of nothing else.

  The tiles of a map may come to a save in any order: they are sorted by their places before they are
  written, and no two of them share a place.  Of each tile only its flags and its items are written, so
  neither who stands there nor any static tile leaves a trace in the file.

  Main statements:
  * `sortTiles_of_perm` — tiles that are listed in any order are written in the same order;
  * `saveTiles_bare` — a save looks at no more of a tile than its flags and its items;
  * `save_alike` — maps that keep the same tiles are saved as the same bytes.
-/
import Realm.Proofs.TileMap.SaveLoad

namespace Realm

/-! ## §1. What is kept of a map. -/

/-- A tile that nobody stands on. -/
def Tile.bare (t : Tile) : Tile := { t with creatures := [] }

/-- **What a save keeps of a place:** the tile there, whoever stands on it, when it is not static. -/
def TileMap.kept? (m : TileMap) (p : Position) : Option Tile :=
  (m.tile? p).bind fun t => if t.isStatic then none else some t.bare

namespace WorldFile

open NodeFile (Operation Session)

/-- **The kept tiles of two maps are the same but for who stands on them,** when the maps keep the same
    at every place. -/
theorem map_bare_keptTiles {m m' : TileMap} (hkept : ∀ p, m.kept? p = m'.kept? p) :
    (keptTiles m).map (fun e => (e.1, e.2.bare)) = (keptTiles m').map (fun e => (e.1, e.2.bare)) := by
  rw [map_keptTiles, map_keptTiles]
  -- both lists are those of the map in which only what is kept stands
  congr 1
  apply Std.ExtTreeMap.ext_getElem?
  intro p
  rw [Std.ExtTreeMap.getElem?_filterMap', Std.ExtTreeMap.getElem?_filterMap']
  exact hkept p

/-! ## §2. Tiles that are listed in any order. -/

/-- Whether an entry stands before another one, or at the same place: by floor, row and column. -/
def isBefore (e e' : Position × Tile) : Bool := (compare e.1 e'.1).isLE

/-- **The tiles to write,** from those of a map in any order: the static ones are left out, the others
    are sorted. -/
def sortTiles (listed : List (Position × Tile)) : List (Position × Tile) :=
  (listed.filter fun e => !e.2.isStatic).mergeSort isBefore

theorem pairwise_sortTiles (listed : List (Position × Tile)) :
    (sortTiles listed).Pairwise fun e e' => isBefore e e' = true := by
  apply List.pairwise_mergeSort
  · intro e₁ e₂ e₃ h₁₂ h₂₃
    exact Std.TransCmp.isLE_trans h₁₂ h₂₃
  · intro e e'
    rw [isBefore, isBefore, Std.OrientedOrd.eq_swap (a := e'.1) (b := e.1)]
    cases compare e.1 e'.1 <;> rfl

/-- No two kept tiles share a place. -/
theorem eq_of_mem_keptTiles {m : TileMap} {e e' : Position × Tile} (he : e ∈ keptTiles m)
    (he' : e' ∈ keptTiles m) (hplace : e.1 = e'.1) : e = e' := by
  have hfound : ∀ e ∈ keptTiles m, m.tiles[e.1]? = some e.2 := by
    intro e he
    exact Std.ExtTreeMap.mem_toList_iff_getElem?_eq_some.mp (List.mem_filter.mp he).1
  have htile : some e.2 = some e'.2 := by rw [← hfound e he, ← hfound e' he', hplace]
  exact Prod.ext hplace (Option.some.inj htile)

/-- **However the tiles of a map are listed,** the same tiles are written in the same order. -/
theorem sortTiles_of_perm {m : TileMap} {listed : List (Position × Tile)}
    (h : listed.Perm m.toList) : sortTiles listed = keptTiles m := by
  have hperm : (sortTiles listed).Perm (keptTiles m) :=
    (List.mergeSort_perm _ _).trans (h.filter _)
  have hordered : (keptTiles m).Pairwise fun e e' => compare e.1 e'.1 = .lt :=
    List.Pairwise.filter _ Std.ExtTreeMap.ordered_keys_toList
  refine List.Perm.eq_of_pairwise ?_ (pairwise_sortTiles listed) ?_ hperm
  · -- what stands before each other stands at one place
    intro e e' he he' hbefore hbehind
    have hplace : e.1 = e'.1 :=
      Std.LawfulEqOrd.eq_of_compare (Std.OrientedCmp.isLE_antisymm hbefore hbehind)
    exact eq_of_mem_keptTiles (hperm.mem_iff.mp he) he' hplace
  · exact hordered.imp fun hlt => by rw [isBefore, hlt]; rfl

/-! ## §3. What is written of a tile. -/

/-- Writes a world of these tiles. -/
def writeTiles (path : String) (c : Catalogue) (tiles : List (Position × Tile)) : Operation Unit := do
  Session.createFile path
  Session.startNode worldKind
  Session.setProps (encodeHeader tiles.length)
  tiles.forM fun (p, t) => writeTile c p t
  Session.endNode
  Session.finish

/-- Saves a world of these tiles. -/
def saveTiles (disk : Disk) (path : String) (c : Catalogue) (tiles : List (Position × Tile)) :
    Except Error Nat × Disk :=
  match (Session.on disk).perform (writeTiles path c tiles) with
  | (.ok _, s) => (.ok tiles.length, s.close.disk)
  | (.error e, s) => (.error (.saveFailed path e), s.close.disk)

/-- Saving a map is saving its kept tiles. -/
theorem save_eq (d : Disk) (path : String) (m : TileMap) :
    save d path m = saveTiles d path m.catalogue (keptTiles m) := rfl

/-- **Who stands on the tiles** makes no difference to a save. -/
theorem saveTiles_bare (d : Disk) (path : String) (c : Catalogue) (tiles : List (Position × Tile)) :
    saveTiles d path c (tiles.map fun e => (e.1, e.2.bare)) = saveTiles d path c tiles := by
  -- the writer of a tile asks for its flags and its items, which a bare tile has too
  have hwrite : writeTiles path c (tiles.map fun e => (e.1, e.2.bare)) = writeTiles path c tiles := by
    simp only [writeTiles, List.length_map, List.forM_eq_forM, List.forM_map]
    rfl
  rw [saveTiles, saveTiles, hwrite, List.length_map]

/-! ## §4. A save depends on the kept tiles alone. -/

/-- **Maps that keep the same are saved the same,** with the same answer and on the same disk. -/
theorem save_congr {m m' : TileMap} (hcatalogue : m.catalogue = m'.catalogue)
    (hkept : ∀ p, m.kept? p = m'.kept? p) (d : Disk) (path : String) :
    save d path m = save d path m' := by
  rw [save_eq, save_eq, ← saveTiles_bare, map_bare_keptTiles hkept, saveTiles_bare, hcatalogue]

/-- **A save depends only on the world.**  Two maps with the same types of items, which keep the same
    tiles at the same places, are saved alike: in whatever order their tiles are listed, whoever stands on
    them, and whatever static tiles there are besides.  The answers are the same, also when a save fails,
    and so are the disks.  When the maps are saved to two disks, or under two paths, the same number of
    tiles is answered and the two files hold the same bytes. -/
theorem save_alike {m m' : TileMap} (hcatalogue : m.catalogue = m'.catalogue)
    (hkept : ∀ p, m.kept? p = m'.kept? p) :
    (∀ d path listed listed', listed.Perm m.toList → listed'.Perm m'.toList →
      saveTiles d path m.catalogue (sortTiles listed) = save d path m
        ∧ saveTiles d path m'.catalogue (sortTiles listed') = save d path m'
        ∧ save d path m = save d path m')
    ∧ ∀ d d' path path', (d.create? path).isSome → (d'.create? path').isSome →
      ∃ e e' bytes, save d path m = (.ok (keptTiles m).length, e)
        ∧ save d' path' m' = (.ok (keptTiles m).length, e')
        ∧ e.lookup path = .file bytes ∧ e'.lookup path' = .file bytes := by
  constructor
  · intro d path listed listed' hlisted hlisted'
    rw [sortTiles_of_perm hlisted, sortTiles_of_perm hlisted', ← save_eq, ← save_eq]
    exact ⟨rfl, rfl, save_congr hcatalogue hkept d path⟩
  · intro d d' path path' hroom hroom'
    obtain ⟨e, hsave, hholds⟩ := save_holds d path m hroom
    obtain ⟨e', hsave', hholds'⟩ := save_holds d' path' m hroom'
    rw [save_congr hcatalogue hkept] at hsave'
    exact ⟨e, e', _, hsave, hsave', hholds.lookup, hholds'.lookup⟩

/-- A tile that somebody stands on and a later one, put into a map in this order; and the same tiles with
    nobody on them, put in the other way round, with a placeholder between them. -/
theorem save_alike_crowded :
    let t : Tile := { items := [⟨5, 0, .empty⟩] }
    let m := ((TileMap.empty .empty).setTile ⟨1, 0, 7⟩ { t with creatures := [⟨9⟩] }).setTile ⟨0, 1, 7⟩ t
    let m' := (((TileMap.empty .empty).setTile ⟨0, 1, 7⟩ t).setTile ⟨3, 3, 7⟩ .placeholder).setTile
      ⟨1, 0, 7⟩ t
    (∀ p, m.kept? p = m'.kept? p) ∧ m.tile? ⟨1, 0, 7⟩ ≠ m'.tile? ⟨1, 0, 7⟩
      ∧ ∃ e e' bytes, save .empty "w" m = (.ok 2, e) ∧ save .empty "w" m' = (.ok 2, e')
        ∧ e.lookup "w" = .file bytes ∧ e'.lookup "w" = .file bytes := by
  intro t m m'
  have hkept : ∀ p, m.kept? p = m'.kept? p := by
    intro p
    simp only [TileMap.kept?, m, m', TileMap.tile?_setTile]
    by_cases hfirst : (⟨1, 0, 7⟩ : Position) = p
    · subst hfirst
      rfl
    by_cases hsecond : (⟨0, 1, 7⟩ : Position) = p
    · subst hsecond
      rfl
    rw [if_neg hfirst, if_neg hfirst, if_neg hsecond]
    -- what is left is nothing on one map, and a placeholder or nothing on the other
    split <;> rfl
  have hcatalogue : m.catalogue = m'.catalogue := rfl
  have hroom := Disk.isSome_create?_empty
  obtain ⟨e, e', bytes, hsave, hsave', hfile, hfile'⟩ :=
    (save_alike hcatalogue hkept).2 .empty .empty "w" "w" hroom hroom
  rw [show (keptTiles m).length = 2 by rfl] at hsave hsave'
  exact ⟨hkept, by decide, e, e', bytes, hsave, hsave', hfile, hfile'⟩

end WorldFile

end Realm
