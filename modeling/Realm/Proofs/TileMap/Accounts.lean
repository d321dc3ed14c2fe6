/-
  Realm.Proofs.TileMap.Accounts — what a load makes of any file that opens.

  The report of a load is the sum of what the trees of the file add to it, and the map holds what the good
  tiles among them put there.

  Main statements:
  * `sum_itemReport`, `sum_tileReport` — the numbers and the faults of many trees;
  * `tile?_foldl_place` — at each place stands the last good tile that names it;
  * `load_accounts` — the report and the map of a load.
-/
import Mathlib.Algebra.GroupWithZero.Nat
import Realm.Proofs.TileMap.Loading

namespace Realm.WorldFile

open NodeFile (Complete Forest Session headerBytes)

/-! ## §1. The sums. -/

/-- The good tiles among some trees. -/
def goodTiles (ts : List FileTree) : List FileTree := ts.filter (IsGood ·)

/-- The trees inside the good tiles among some trees. -/
def insideGood (ts : List FileTree) : List FileTree := (goodTiles ts).flatMap fun t => t.inside.trees

theorem itemFault?_of_parsed {c : Catalogue} {t : FileTree} {decoded : DecodedItem} (p : Position)
    (h : parsed? c t = some decoded) : itemFault? c p t = none := by
  rw [parsed?] at h
  rw [itemFault?]
  by_cases hitem : t.kind = itemKind
  · rw [if_pos hitem] at h
    cases hdecode : Item.decode c (.ofBytes t.label) with
    | error e =>
      rw [hdecode] at h
      cases h
    | ok decoded => rw [if_pos hitem]
  · rw [if_neg hitem]

/-- The faults of a tree inside the root: that of the tile itself, or those of the items inside it. -/
def faultsIn (c : Catalogue) (t : FileTree) : List Fault :=
  if t.kind ≠ tileKind then []
  else if 9 ≤ t.label.length then t.inside.trees.filterMap (itemFault? c (placeIn t.label))
  else [.tileTruncated]

/-- **What the trees inside a tile add** altogether. -/
theorem sum_itemReport (c : Catalogue) (p : Position) (ts : List FileTree) :
    Report.sum (ts.map (itemReport c p))
      = { items := ts.countP fun t => (parsed? c t).isSome
          skipped := (ts.countP fun t => (parsed? c t).isNone) + (ts.map (nestedIn c)).sum
          faults := ts.filterMap (itemFault? c p) } := by
  induction ts with
  | nil => rfl
  | cons t ts ih =>
    rw [List.map_cons, Report.sum_cons, ih, itemReport]
    cases hparsed : parsed? c t with
    | none =>
      have hnested : nestedIn c t = 0 := by rw [nestedIn, hparsed]
      cases hfault : itemFault? c p t with
      | none => simp [Report.add, hparsed, hnested, hfault]; omega
      | some fault => simp [Report.add, hparsed, hnested, hfault]; omega
    | some decoded =>
      have hfault := itemFault?_of_parsed p hparsed
      simp [Report.add, hparsed, hfault]
      omega

/-- **What the trees inside the root add** altogether. -/
theorem sum_tileReport (c : Catalogue) (ts : List FileTree) :
    Report.sum (ts.map (tileReport c))
      = { tiles := (goodTiles ts).length
          items := (insideGood ts).countP fun t => (parsed? c t).isSome
          skipped := (ts.countP fun t => ¬ IsGood t)
            + ((insideGood ts).countP fun t => (parsed? c t).isNone)
            + ((insideGood ts).map (nestedIn c)).sum
          faults := ts.flatMap (faultsIn c) } := by
  induction ts with
  | nil => rfl
  | cons t ts ih =>
    rw [List.map_cons, Report.sum_cons, ih, tileReport]
    by_cases hgood : IsGood t
    · have hfaults : faultsIn c t = t.inside.trees.filterMap (itemFault? c (placeIn t.label)) := by
        rw [faultsIn, if_neg (not_not_intro hgood.1), if_pos hgood.2]
      rw [if_pos hgood, sum_itemReport]
      -- the trees inside it stand in front of those inside the later good tiles
      simp [Report.add, goodTiles, insideGood, hgood, hfaults]
      omega
    · have hfaults : faultsIn c t = if t.kind = tileKind then [.tileTruncated] else [] := by
        rw [faultsIn]
        by_cases htile : t.kind = tileKind
        · rw [if_neg (not_not_intro htile), if_pos htile, if_neg fun h => hgood ⟨htile, h⟩]
        · rw [if_pos htile, if_neg htile]
      rw [if_neg hgood]
      simp [Report.add, goodTiles, insideGood, hgood, hfaults]
      omega

/-! ## §2. The tiles. -/

theorem catalogue_foldl_place (c : Catalogue) (ts : List FileTree) (m : TileMap) :
    (ts.foldl (place c) m).catalogue = m.catalogue := by
  induction ts generalizing m with
  | nil => rfl
  | cons t ts ih =>
    rw [List.foldl_cons, ih, place]
    split <;> rfl

/-- **At each place stands the last good tile that names it,** or else what stood there before. -/
theorem tile?_foldl_place (c : Catalogue) (ts : List FileTree) (m : TileMap) (p : Position) :
    (ts.foldl (place c) m).tile? p
      = ((((goodTiles ts).filter (placeIn ·.label = p)).getLast?).map (tileIn c)).or (m.tile? p) := by
  induction ts generalizing m with
  | nil => rfl
  | cons t ts ih =>
    rw [List.foldl_cons, ih, place]
    by_cases hgood : IsGood t
    · rw [if_pos hgood, TileMap.tile?_setTile]
      -- at its own place the tile stands unless a later one does
      by_cases hplace : placeIn t.label = p
      · simp [goodTiles, hgood, hplace, List.getLast?_cons]
      · simp [goodTiles, hgood, hplace]
    · simp [goodTiles, hgood]

/-! ## §3. The accounts. -/

/-- **A load accounts for every node that it looks at.**  A file that opens holds a root with trees inside
    it, and the load fails only when the root is of another kind or its properties do not begin with the
    number of the format.  Else the report counts the good tiles, the items that can be read inside them,
    and what is passed over: the trees inside the root that are no good tiles, the trees inside good tiles
    that give no item, and the trees inside containers.  The faults are those of the tiles that are too
    short and of the items that cannot be read, in the order of the file.  At each place that a good tile
    names, the map holds the last such tile with the items that can be read, and nothing anywhere else. -/
theorem load_accounts (d : Disk) (path : String) (c : Catalogue) (caching : Bool)
    (hopens : ((Session.on d).perform (Session.openFile path caching)).1 = .ok ()) :
    ∃ data body spelled root behind, d.lookup path = .file data ∧ data.toList = headerBytes ++ body
      ∧ Complete body spelled ∧ spelled.said.trees = root :: behind
      ∧ ((∃ e, load d path c caching = .error e) ↔ root.kind ≠ 0 ∨ ¬ [1, 0] <+: root.label)
      ∧ ∀ m report, load d path c caching = .ok (m, report) →
        let within := root.inside.trees
        report.tiles = (goodTiles within).length
          ∧ report.items = ((insideGood within).countP fun t => (parsed? c t).isSome)
          ∧ report.skipped = (within.countP fun t => ¬ IsGood t)
            + ((insideGood within).countP fun t => (parsed? c t).isNone)
            + ((insideGood within).map (nestedIn c)).sum
          ∧ report.faults = within.flatMap (faultsIn c)
          ∧ m.catalogue = c
          ∧ ∀ p, m.tile? p
            = (((goodTiles within).filter (placeIn ·.label = p)).getLast?).map (tileIn c) := by
  obtain ⟨data, body, spelled, hclosed, hsplit, hbody⟩ := Session.exists_complete_of_opens hopens
  have hfile : d.lookup path = .file data := hclosed
  cases hsaid : spelled.said with
  | nil => exact absurd (Forest.map_eq_nil.mp hsaid) hbody.ne_nil
  | node kind label inside behind =>
    have hload := load_of_complete ⟨kind, label, inside⟩ c caching hfile hsplit hbody hsaid
    refine ⟨data, body, spelled, ⟨kind, label, inside⟩, behind.trees, hfile, hsplit, hbody, ?_, ?_, ?_⟩
    · rw [hsaid]
      rfl
    · rw [hload]
      by_cases hkind : kind = worldKind
      · by_cases hformat : [1, 0] <+: label
        · simp [hkind, hformat, worldKind]
        · simp [hkind, hformat]
      · simp [hkind, show kind ≠ 0 from hkind]
    · intro m report hok
      rw [hload] at hok
      -- a root of another kind, or another format, is no answer
      split at hok
      · cases hok
      split at hok
      · cases hok
      obtain ⟨rfl, rfl⟩ := Prod.mk.inj (Except.ok.inj hok)
      intro within
      rw [sum_tileReport]
      refine ⟨rfl, rfl, rfl, rfl, catalogue_foldl_place c within (.empty c), fun p => ?_⟩
      rw [tile?_foldl_place, show (TileMap.empty c).tile? p = none from rfl, Option.or_none]

/-- A world of a tile whose bytes are too few; a tile with an item, an item cut short and a tree of another
    kind inside it; and a tile for the same place with a container. -/
def mixedWorld : Forest (List UInt8) :=
  .node 0 [1, 0]
    (.node 1 [1] .nil
      (.node 1 [1, 0, 2, 0, 7, 0, 0, 0, 0]
        (.node 2 [5, 0] .nil (.node 2 [5] .nil (.node 9 [] .nil .nil)))
        (.node 1 [1, 0, 2, 0, 7, 0, 0, 0, 0]
          (.node 2 [6, 0, 23, 1, 0, 0, 0] (.node 2 [5, 0] .nil .nil) .nil)
          .nil)))
    .nil

/-- Two tiles and two items are kept, and the last tile stands.  Four trees are passed over: the short
    tile, the item cut short, the tree beside it, and the one inside the container. -/
theorem load_accounts_mixed :
    let write := Session.writeForest (mixedWorld.map fun _ bytes => [bytes])
    let d := ((Session.on .empty).perform (Session.writeFile "w" write)).2.disk
    ((Session.on d).perform (Session.openFile "w" true)).1 = .ok ()
      ∧ ∃ m report, load d "w" .empty true = .ok (m, report)
        ∧ report = ⟨2, 2, 4, [.tileTruncated, .itemMalformed ⟨1, 2, 7⟩ .missingId]⟩
        ∧ m.tile? ⟨1, 2, 7⟩ = some { items := [⟨6, 0, .empty⟩] } := by
  intro write d
  have hroom : ((Session.on .empty).disk.fileKey? "w").isSome :=
    Disk.isSome_fileKey? Disk.isSome_create?_empty
  obtain ⟨s', hwritten, _, hholds⟩ := Session.perform_writeFile hroom (Session.writingTo?_on_ne hroom)
    (Session.appends_writeForest (mixedWorld.map fun _ bytes => [bytes]))
  have hfile : d.lookup "w" = .file (headerBytes ++ mixedWorld.written.bytes).toArray := by
    rw [show d = s'.disk from congrArg (fun answer => answer.2.disk) hwritten]
    exact hholds.lookup
  have hcomplete := NodeFile.complete_bytes mixedWorld.valid_written nofun
  have hopens : ((Session.on d).perform (Session.openFile "w" true)).1 = .ok () := by
    have hclosed : (Session.on d).close.disk.lookup "w" = .file _ := hfile
    obtain ⟨_, hopened, _⟩ := NodeFile.openFile_complete true hclosed rfl hcomplete
    rw [hopened]
  refine ⟨hopens, ?_⟩
  obtain ⟨data, body, spelled, root, behind, hdata, hsplit, hbody, htrees, hfails, haccounts⟩ :=
    load_accounts d "w" .empty true hopens
  -- the file holds this forest and no other
  rw [hfile] at hdata
  cases hdata
  have hbytes : headerBytes ++ mixedWorld.written.bytes = headerBytes ++ body := hsplit
  obtain rfl := List.append_cancel_left hbytes
  obtain rfl := NodeFile.complete_unique hcomplete hbody
  rw [Forest.said_written] at htrees
  obtain ⟨rfl, rfl⟩ := List.cons.inj htrees
  cases hload : load d "w" .empty true with
  | error e => exact absurd (hfails.mp ⟨e, hload⟩) (by decide)
  | ok loaded =>
    obtain ⟨m, report⟩ := loaded
    obtain ⟨htiles, hitems, hskipped, hfaults, _, hplaces⟩ := haccounts m report hload
    have hplace : m.tile? ⟨1, 2, 7⟩ = some { items := [⟨6, 0, .empty⟩] } := by
      rw [hplaces]
      rfl
    refine ⟨m, report, rfl, ?_, hplace⟩
    obtain ⟨tiles, items, skipped, faults⟩ := report
    rw [Report.mk.injEq]
    exact ⟨htiles, hitems, hskipped, hfaults⟩

end Realm.WorldFile
