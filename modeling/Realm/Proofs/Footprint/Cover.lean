/-
  Realm.Proofs.Footprint.Cover — the places that an area covers.

  Covering goes through the affected cells one by one, and asks for sight while it puts placeholders on
  the map.  Nothing lies on a placeholder, so it hides nothing: each cell is judged as on the map before
  the first one.  Distinct cells of a footprint fall on distinct places, so no place is listed twice.

  Main statements:
  * `isSightClear_ensureTile` — placeholders do not change what is in sight;
  * `foldl_coverCell` — what covering a list of cells comes to;
  * `cover?_spec` — the places are distinct, and each of them has the tile that it had, or a placeholder;
  * `cover?_visible` — the places are those of the affected cells that are on the map and in sight.
-/
import Realm.Proofs.Footprint.Cells

namespace Realm

/-! ## §1. Placeholders. -/

namespace TileMap

theorem tile?_ensureTile (m : TileMap) (p q : Position) :
    (m.ensureTile p).tile? q
      = if p = q then some ((m.tile? q).getD .placeholder) else m.tile? q := by
  unfold ensureTile
  split
  · rename_i t ht
    by_cases hsame : p = q
    · rw [if_pos hsame, ← hsame, ht]
      rfl
    · rw [if_neg hsame]
  · rename_i hnone
    rw [tile?_setTile]
    by_cases hsame : p = q
    · rw [if_pos hsame, if_pos hsame, ← hsame, hnone]
      rfl
    · rw [if_neg hsame, if_neg hsame]

@[simp] theorem catalogue_ensureTile (m : TileMap) (p : Position) :
    (m.ensureTile p).catalogue = m.catalogue := by
  unfold ensureTile
  split <;> rfl

/-- Nothing lies on a placeholder. -/
@[simp] theorem blocksSight_ensureTile (m : TileMap) (p q : Position) :
    (m.ensureTile p).blocksSight q = m.blocksSight q := by
  unfold blocksSight
  rw [tile?_ensureTile, catalogue_ensureTile]
  by_cases hsame : p = q
  · rw [if_pos hsame]
    cases m.tile? q with
    | none => rfl
    | some t => rfl
  · rw [if_neg hsame]

/-- A line is clear or not by what blocks sight, and by nothing else of the map. -/
theorem clearAlong_congr {m m' : TileMap} (h : ∀ p, m'.blocksSight p = m.blocksSight p) (z : UInt8)
    (fuel : Nat) (l : Line) : m'.clearAlong z fuel l = m.clearAlong z fuel l := by
  induction fuel generalizing l with
  | zero => rfl
  | succ fuel ih => simp only [clearAlong, h, ih]

/-- **Placeholders do not change what is in sight.** -/
@[simp] theorem isSightClear_ensureTile (m : TileMap) (r p q : Position) (sameFloor : Bool) :
    (m.ensureTile r).isSightClear p q sameFloor = m.isSightClear p q sameFloor := by
  unfold isSightClear checkSightLine
  rw [clearAlong_congr (blocksSight_ensureTile m r)]

end TileMap

/-! ## §2. Places of cells. -/

namespace Position

/-- **On the map:** a place of one of its columns, rows and floors. -/
def OnMap (p : Position) : Prop :=
  (p.x.toNat : Int) < extent ∧ (p.y.toNat : Int) < extent ∧ p.z.toNat < floorCount

instance (p : Position) : Decidable p.OnMap := inferInstanceAs (Decidable (_ ∧ _))

/-- **A translation** ends on the map, so many columns and rows away on the same floor, or nowhere. -/
theorem translated_eq_some_iff {p q : Position} {dx dy : Int} :
    p.translated dx dy = some q ↔ ((q.x.toNat : Int) = p.x.toNat + dx
      ∧ (q.y.toNat : Int) = p.y.toNat + dy ∧ q.z = p.z) ∧ q.OnMap := by
  unfold translated OnMap
  dsimp only
  split
  · rename_i hbounds
    obtain ⟨hx, hx', hy, hy', hz⟩ := hbounds
    have hcol : ((p.x.toNat : Int) + dx).toNat < UInt16.size := by
      have : extent = 65535 := rfl
      show _ < 65536
      omega
    have hrow : ((p.y.toNat : Int) + dy).toNat < UInt16.size := by
      have : extent = 65535 := rfl
      show _ < 65536
      omega
    constructor
    · rintro ⟨rfl⟩
      dsimp only
      rw [UInt16.toNat_ofNat_of_lt' hcol, UInt16.toNat_ofNat_of_lt' hrow]
      exact ⟨⟨by omega, by omega, rfl⟩, by omega, by omega, hz⟩
    · rintro ⟨⟨hqx, hqy, hqz⟩, -⟩
      rw [← hqx, ← hqy, ← hqz, Int.toNat_natCast, Int.toNat_natCast, UInt16.ofNat_toNat,
        UInt16.ofNat_toNat]
  · rename_i hbounds
    refine iff_of_false nofun ?_
    rintro ⟨⟨hqx, hqy, hqz⟩, hcol, hrow, hfloor⟩
    rw [hqz] at hfloor
    omega

end Position

namespace Area

variable (f : Footprint) (target : Position)

/-- **Where a cell falls** when the center of its footprint is laid on a target. -/
structure FallsOn (c : Cell) (p : Position) : Prop where
  column : (p.x.toNat : Int) = target.x.toNat + ((c.col : Int) - f.center.col)
  row : (p.y.toNat : Int) = target.y.toNat + ((c.row : Int) - f.center.row)
  floor : p.z = target.z

variable {f target} in
theorem placeOf_eq_some_iff {c : Cell} {p : Position} :
    placeOf f target c = some p ↔ FallsOn f target c p ∧ p.OnMap := by
  unfold placeOf
  rw [Position.translated_eq_some_iff]
  exact and_congr_left fun _ => ⟨fun h => ⟨h.1, h.2.1, h.2.2⟩, fun h => ⟨h.1, h.2, h.3⟩⟩

theorem placeOf_injective {c d : Cell} {p : Position} (hc : placeOf f target c = some p)
    (hd : placeOf f target d = some p) : c = d := by
  obtain ⟨hc, -⟩ := placeOf_eq_some_iff.1 hc
  obtain ⟨hd, -⟩ := placeOf_eq_some_iff.1 hd
  have hcols : c.col = d.col := by have := hc.column.symm.trans hd.column; omega
  have hrows : c.row = d.row := by have := hc.row.symm.trans hd.row; omega
  cases c
  cases d
  simp_all

/-! ## §3. Covering. -/

/-- **What covering leaves of a map:** the listed places have the tile that they had, or a placeholder,
    and all other places are as they were. -/
structure Covered (places : List Position) (m m' : TileMap) : Prop where
  catalogue : m'.catalogue = m.catalogue
  tile : ∀ q, m'.tile? q
    = if q ∈ places then some ((m.tile? q).getD .placeholder) else m.tile? q

theorem Covered.refl (m : TileMap) : Covered [] m m where
  catalogue := rfl
  tile q := by rw [if_neg List.not_mem_nil]

theorem Covered.cons {places : List Position} {m m' : TileMap} {p : Position}
    (h : Covered places (m.ensureTile p) m') : Covered (p :: places) m m' where
  catalogue := by rw [h.catalogue, TileMap.catalogue_ensureTile]
  tile q := by
    rw [h.tile, TileMap.tile?_ensureTile]
    by_cases hsame : p = q
    · rw [if_pos hsame, if_pos (List.mem_cons.2 (.inl hsame.symm))]
      split <;> rfl
    · have hmem : q ∈ p :: places ↔ q ∈ places := by
        rw [List.mem_cons]
        exact ⟨fun h => h.resolve_left (fun h => hsame h.symm), .inr⟩
      rw [if_neg hsame]
      simp only [hmem]

/-- The place of a cell, if it is on the map and in sight of the target. -/
def visiblePlace (m : TileMap) (c : Cell) : Option Position :=
  (placeOf f target c).filter fun p => m.isSightClear target p true

/-- **Covering one cell:** what is in sight gets a tile, and the rest is left alone. -/
theorem coverCell_eq (done : List Position) (m : TileMap) (c : Cell) :
    coverCell f target (done, m) c = match visiblePlace f target m c with
      | none => (done, m)
      | some p => (p :: done, m.ensureTile p) := by
  unfold coverCell visiblePlace
  cases placeOf f target c with
  | none => rfl
  | some p =>
    dsimp only [Option.filter]
    split <;> rfl

/-- Placeholders hide no cell. -/
theorem visiblePlace_ensureTile (m : TileMap) (p : Position) :
    visiblePlace f target (m.ensureTile p) = visiblePlace f target m := by
  funext c
  simp only [visiblePlace, TileMap.isSightClear_ensureTile]

/-- **Covering cell by cell:** of the places of the cells those are listed that were in sight before. -/
theorem foldl_coverCell (cells : List Cell) :
    ∀ (done : List Position) (m : TileMap),
      (cells.foldl (coverCell f target) (done, m)).1
          = (cells.filterMap (visiblePlace f target m)).reverse ++ done
        ∧ Covered (cells.filterMap (visiblePlace f target m)) m
            (cells.foldl (coverCell f target) (done, m)).2 := by
  induction cells with
  | nil => exact fun done m => ⟨rfl, .refl m⟩
  | cons c cells ih =>
    intro done m
    rw [List.foldl_cons, coverCell_eq]
    cases hplace : visiblePlace f target m c with
    | none =>
      rw [List.filterMap_cons_none hplace]
      exact ih done m
    | some p =>
      rw [List.filterMap_cons_some hplace, List.reverse_cons, List.append_assoc]
      -- the rest is judged with this placeholder on the map, as if it were not there
      obtain ⟨hlist, hcovered⟩ := ih (p :: done) (m.ensureTile p)
      rw [visiblePlace_ensureTile] at hlist hcovered
      exact ⟨hlist, hcovered.cons⟩

variable {f target}

/-- **Covering a target** with a footprint. -/
theorem cover?_of_facing? {a : Area} {caster : Position} (hfacing : a.facing? caster target = some f)
    (m : TileMap) : ∃ m', a.cover? caster target m
        = some (f.affected.filterMap (visiblePlace f target m), m')
      ∧ Covered (f.affected.filterMap (visiblePlace f target m)) m m' := by
  obtain ⟨hlist, hcovered⟩ := foldl_coverCell f target f.affected [] m
  refine ⟨_, ?_, hcovered⟩
  rw [cover?, hfacing, Option.map_some]
  show some ((f.affected.foldl (coverCell f target) ([], m)).1.reverse, _) = _
  rw [hlist, List.append_nil, List.reverse_reverse]

theorem visiblePlace_eq_some_iff {m : TileMap} {c : Cell} {p : Position} :
    visiblePlace f target m c = some p
      ↔ FallsOn f target c p ∧ p.OnMap ∧ m.isSightClear target p true = true := by
  unfold visiblePlace
  rw [Option.filter_eq_some_iff, placeOf_eq_some_iff, and_assoc]

variable (f target) in
/-- The visible places are distinct. -/
theorem nodup_visiblePlaces (m : TileMap) :
    (f.affected.filterMap (visiblePlace f target m)).Nodup := by
  refine (Footprint.nodup_affected f).filterMap fun c d p hp hq => ?_
  exact placeOf_injective f target (Option.filter_eq_some_iff.1 hp).1
    (Option.filter_eq_some_iff.1 hq).1

/-- **The places that an area covers** are distinct, and covering them only puts placeholders where
    there was no tile. -/
theorem cover?_spec {a : Area} {caster : Position} (target : Position) {m m' : TileMap}
    {places : List Position} (h : a.cover? caster target m = some (places, m')) :
    places.Nodup ∧ Covered places m m' := by
  obtain ⟨f, hfacing, -⟩ := Option.map_eq_some_iff.1 h
  obtain ⟨m'', hcover, hcovered⟩ := cover?_of_facing? hfacing m
  obtain ⟨rfl, rfl⟩ := Prod.mk.inj (Option.some.inj (hcover.symm.trans h))
  exact ⟨nodup_visiblePlaces f target m, hcovered⟩

/-! ## §4. What is listed. -/

/-- **The visible part of a footprint** that is laid on a target: its affected cells, row by row, that
    fall on the map and in sight, and the places that they fall on. -/
structure Visible (f : Footprint) (target : Position) (m : TileMap) (cells : List Cell)
    (places : List Position) : Prop where
  ordered : cells.Pairwise Cell.Before
  mem_iff : ∀ c, c ∈ cells ↔ f.affects c = true
    ∧ ∃ p, FallsOn f target c p ∧ p.OnMap ∧ m.isSightClear target p true = true
  falls : List.Forall₂ (fun c p => FallsOn f target c p ∧ p.OnMap
    ∧ m.isSightClear target p true = true) cells places
  nodup : places.Nodup

/-- The cells that are placed, and their places. -/
theorem forall₂_filterMap {α β : Type} (place : α → Option β) (cells : List α) :
    List.Forall₂ (fun c p => place c = some p) (cells.filter fun c => (place c).isSome)
      (cells.filterMap place) := by
  induction cells with
  | nil => exact .nil
  | cons c cells ih =>
    cases hplace : place c with
    | none =>
      rw [List.filterMap_cons_none hplace, List.filter_cons_of_neg (by simp [hplace])]
      exact ih
    | some p =>
      rw [List.filterMap_cons_some hplace, List.filter_cons_of_pos (by simp [hplace])]
      exact .cons hplace ih

theorem visible_visiblePlaces (f : Footprint) (target : Position) (m : TileMap) :
    Visible f target m (f.affected.filter fun c => (visiblePlace f target m c).isSome)
      (f.affected.filterMap (visiblePlace f target m)) where
  ordered := f.pairwise_affected.filter _
  mem_iff c := by
    rw [List.mem_filter, Footprint.mem_affected_iff, Option.isSome_iff_exists]
    simp only [visiblePlace_eq_some_iff]
  falls := (forall₂_filterMap (visiblePlace f target m) f.affected).imp fun _ _ => visiblePlace_eq_some_iff.1
  nodup := nodup_visiblePlaces f target m

/-- A map that is covered has a tile on the listed places, and differs only by placeholders on those
    that had none. -/
theorem Covered.tile?_cases {places : List Position} {m m' : TileMap} (h : Covered places m m') :
    (∀ p ∈ places, (m'.tile? p).isSome = true)
    ∧ ∀ p, m'.tile? p = m.tile? p
      ∨ p ∈ places ∧ m.tile? p = none ∧ m'.tile? p = some { isStatic := true } := by
  constructor
  · intro p hp
    rw [h.tile, if_pos hp]
    rfl
  · intro p
    by_cases hp : p ∈ places
    · rw [h.tile, if_pos hp]
      cases htile : m.tile? p with
      | none => exact .inr ⟨hp, rfl, rfl⟩
      | some t => exact .inl rfl
    · rw [h.tile, if_neg hp]
      exact .inl rfl

/-- **An area covers what is in sight of the target.**  It covers nothing just when it has no footprint
    for the direction from the caster to the target.  Otherwise the places are listed row by row, each
    once: they are those on which the affected cells fall when the center is laid on the target, as far
    as these are on the map, and in sight of the target on the map as it was before.  After that there
    is a tile on each of them; nothing else has changed but that listed places without a tile now have
    an empty one that only stands in. -/
theorem cover?_visible (a : Area) (caster target : Position) (m : TileMap) :
    (a.cover? caster target m = none
      ↔ a.footprint? (caster.facing target a.hasDiagonals) = none)
    ∧ ∀ f, a.footprint? (caster.facing target a.hasDiagonals) = some f →
      ∃ cells places m', a.cover? caster target m = some (places, m')
        ∧ Visible f target m cells places
        ∧ m'.catalogue = m.catalogue
        ∧ (∀ p ∈ places, (m'.tile? p).isSome = true)
        ∧ ∀ p, m'.tile? p = m.tile? p
          ∨ p ∈ places ∧ m.tile? p = none ∧ m'.tile? p = some { isStatic := true } := by
  constructor
  · rw [cover?, Option.map_eq_none_iff]
    rfl
  · intro f hfacing
    obtain ⟨m', hcover, hcovered⟩ := cover?_of_facing? hfacing m
    exact ⟨_, _, m', hcover, visible_visiblePlaces f target m, hcovered.catalogue,
      hcovered.tile?_cases⟩

/-- Three cells in a row, the last of which is the center. -/
def lance : Footprint :=
  { Footprint.blank 3 1 with
    cells := (({} : Std.ExtTreeSet Cell).insert ⟨0, 0⟩).insert ⟨1, 0⟩ |>.insert ⟨2, 0⟩
    center := ⟨2, 0⟩ }

/-- A wall next to an empty place. -/
def corridor : TileMap :=
  let types : Catalogue := ⟨({} : Std.ExtTreeMap UInt16 ItemType).insert 1025
    { id := 1025, name := "wall", blockProjectile := true }⟩
  (TileMap.empty types).setTile ⟨101, 100, 7⟩ { items := [.new types 1025 1] }

/-- Aimed eastwards, the lance reaches the wall, and does not go through it. -/
theorem cover?_visible_corridor :
    ∃ cells places m',
      cover? (putCardinal {} lance.cardinal) ⟨99, 100, 7⟩ ⟨100, 100, 7⟩ corridor
        = some (places, m')
      ∧ Visible lance.cardinal.east ⟨100, 100, 7⟩ corridor cells places
      ∧ places = [⟨100, 100, 7⟩, ⟨101, 100, 7⟩]
      ∧ m'.tile? ⟨100, 100, 7⟩ = some { isStatic := true } := by
  obtain ⟨-, hcover⟩ := cover?_visible (putCardinal {} lance.cardinal) ⟨99, 100, 7⟩
    ⟨100, 100, 7⟩ corridor
  obtain ⟨cells, places, m', hlist, hvisible, -, hheld, htiles⟩ :=
    hcover lance.cardinal.east (by decide)
  have hplaces : (cover? (putCardinal {} lance.cardinal) ⟨99, 100, 7⟩ ⟨100, 100, 7⟩
      corridor).map Prod.fst = some [⟨100, 100, 7⟩, ⟨101, 100, 7⟩] := by decide
  rw [hlist] at hplaces
  have hplaces := Option.some.inj hplaces
  dsimp only at hplaces
  subst hplaces
  refine ⟨cells, _, m', hlist, hvisible, rfl, ?_⟩
  -- the target had no tile before
  have hnone : corridor.tile? ⟨100, 100, 7⟩ = none := by decide
  rcases htiles ⟨100, 100, 7⟩ with hsame | ⟨-, -, hnew⟩
  · have hsome := hheld ⟨100, 100, 7⟩ List.mem_cons_self
    rw [hsame, hnone] at hsome
    cases hsome
  · exact hnew

end Area

end Realm
