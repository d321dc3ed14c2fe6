/-
  Realm.Proofs.World.SavedTiles — what becomes of an added tile when the map is saved and loaded.

  A tile is added with its flags, and nothing but adding it again changes them: items come and go,
  creatures enter and leave, casts cover the place.  Nor does anything change whether the tile is static.
  That was decided when the place got its first tile, and adding one over a placeholder does not undo
  it: such a tile has its flags as long as the world lasts, and is not in the file.

  Main statements:
  * `Settled.run` — flags and staticness of a tile outlast every run that does not add it again;
  * `added_tile_reloads` — an added tile is loaded with its flags, unless a placeholder was there.
-/
import Realm.Proofs.TileMap.SaveLoad
import Realm.Proofs.World.Run

namespace Realm

namespace World

/-! ## §1. What a tile keeps. -/

/-- **A place is settled:** it has a tile with these flags, and this is whether it is static. -/
def Settled (p : Position) (flags : TileFlags) (static : Bool) (w : World) : Prop :=
  ∃ t, w.tile? p = some t ∧ t.flags = flags ∧ t.isStatic = static

section

variable {p : Position} {flags : TileFlags} {static : Bool} {w w' : World}

/-- An added tile has its flags, and is as static as what was there. -/
theorem settled_addTile (w : World) (p : Position) (flags : TileFlags) :
    (w.addTile p flags).Settled p flags ((w.tile? p).any Tile.isStatic) := by
  unfold addTile
  cases ht : w.tile? p with
  | none =>
    refine ⟨{ flags }, ?_, rfl, rfl⟩
    exact (w.map.tile?_setTile p { flags } p).trans (if_pos rfl)
  | some t =>
    refine ⟨{ t with flags }, ?_, rfl, rfl⟩
    rw [tile?_modifyTile, if_pos rfl, ht]
    rfl

namespace Settled

/-- A change that leaves the flags of a tile and whether it is static. -/
theorem of_tile (h : w.Settled p flags static)
    (htile : ∀ t, w.tile? p = some t →
      ∃ t', w'.tile? p = some t' ∧ t'.flags = t.flags ∧ t'.isStatic = t.isStatic) :
    w'.Settled p flags static := by
  obtain ⟨t, ht, hflags, hstatic⟩ := h
  obtain ⟨t', ht', hflags', hstatic'⟩ := htile t ht
  exact ⟨t', ht', hflags'.trans hflags, hstatic'.trans hstatic⟩

/-- A change that leaves the map. -/
theorem of_map (h : w.Settled p flags static) (hmap : w'.map = w.map) :
    w'.Settled p flags static := by
  refine h.of_tile fun t ht => ⟨t, ?_, rfl, rfl⟩
  rw [World.tile?, hmap]
  exact ht

/-- What lies and stands on a tile may change. -/
theorem modifyTile (h : w.Settled p flags static) (q : Position) {f : Tile → Tile}
    (hf : ∀ t, (f t).flags = t.flags ∧ (f t).isStatic = t.isStatic) :
    (w.modifyTile q f).Settled p flags static := by
  refine h.of_tile fun t ht => ?_
  rw [tile?_modifyTile, ht]
  split
  · exact ⟨f t, rfl, hf t⟩
  · exact ⟨t, rfl, rfl, rfl⟩

theorem ensureTile (h : w.Settled p flags static) (q : Position) :
    (w.ensureTile q).Settled p flags static := by
  refine h.of_tile fun t ht => ⟨t, ?_, rfl, rfl⟩
  rw [tile?_ensureTile, ht]
  split <;> rfl

/-- Another place may get a tile. -/
theorem addTile {q : Position} (h : w.Settled p flags static) (hother : q ≠ p)
    (others : TileFlags) : (w.addTile q others).Settled p flags static := by
  refine h.of_tile fun t ht => ⟨t, ?_, rfl, rfl⟩
  rw [← ht]
  unfold World.addTile
  split
  · rw [tile?_modifyTile, if_neg hother]
  · exact (w.map.tile?_setTile q { flags := others } p).trans (if_neg hother)

theorem leaveTile (h : w.Settled p flags static) (id : CreatureId) :
    (w.leaveTile id).Settled p flags static := by
  unfold World.leaveTile
  split
  · exact h.modifyTile _ fun _ => ⟨rfl, rfl⟩
  · exact h

theorem placeItem (h : w.Settled p flags static) (q : Position) (id amount : UInt16) :
    (w.placeItem q id amount).Settled p flags static :=
  (h.ensureTile q).modifyTile q fun _ => ⟨rfl, rfl⟩

theorem addCreature (h : w.Settled p flags static) (c : Creature) :
    (w.addCreature c).Settled p flags static := by
  have hplaced := (h.leaveTile c.id).ensureTile c.position
  unfold World.addCreature
  dsimp only
  refine Settled.modifyTile ?_ c.position fun _ => ⟨rfl, rfl⟩
  exact hplaced.of_map rfl

theorem removeCreature (h : w.Settled p flags static) (id : CreatureId) :
    (w.removeCreature id).Settled p flags static := by
  have hleft := h.leaveTile id
  unfold World.removeCreature
  dsimp only
  split
  · exact hleft.of_map rfl
  · exact hleft

/-- Where a place may only gain items, its tile keeps its flags. -/
theorem of_frame {hurt marked armed : CreatureId → Prop} {gain : Position → Nat}
    (h : w.Settled p flags static) (hframe : w.Frame hurt marked armed gain w') :
    w'.Settled p flags static := by
  refine h.of_tile fun t ht => ?_
  have hgrows := hframe.tile p
  rw [ht] at hgrows
  rcases hgrows with ⟨hnone, -⟩ | ⟨added, -, htile⟩
  · cases hnone
  · exact ⟨_, htile, rfl, rfl⟩

/-- Neither casts nor time settle a place anew. -/
theorem take (h : w.Settled p flags static) (r : Round) : (w.take r).Settled p flags static :=
  take_induction (fun c _ _ hchange h => h.of_frame (hchange.frame c))
    (fun _ _ h => h.of_map rfl) w r h

/-- **A deed leaves a tile's flags,** and whether it is static, unless it adds that very tile. -/
theorem perform (h : w.Settled p flags static) {d : Deed}
    (hother : ∀ others, d ≠ .addTile p others) : (w.perform d).Settled p flags static := by
  cases d with
  | addTile q others =>
    refine h.addTile (fun hsame => ?_) others
    exact hother others (by rw [hsame])
  | placeItem q id amount => exact h.placeItem q id amount
  | addCreature c => exact h.addCreature c
  | removeCreature id => exact h.removeCreature id
  | round r => exact h.take r

theorem run (h : w.Settled p flags static) {deeds : List Deed}
    (hothers : ∀ others, .addTile p others ∉ deeds) : (w.run deeds).Settled p flags static := by
  induction deeds generalizing w with
  | nil => exact h
  | cons d deeds ih =>
    refine ih (h.perform fun others hsame => ?_) fun others hmem => ?_
    · exact hothers others (by rw [hsame]; exact List.mem_cons_self)
    · exact hothers others (List.mem_cons_of_mem d hmem)

end Settled

/-! ## §2. The types of items. -/

theorem catalogue_leaveTile (w : World) (id : CreatureId) :
    (w.leaveTile id).catalogue = w.catalogue := by
  unfold leaveTile
  split <;> rfl

theorem catalogue_ensureTile (w : World) (p : Position) :
    (w.ensureTile p).catalogue = w.catalogue := TileMap.catalogue_ensureTile w.map p

/-- No deed changes the types of the items. -/
theorem catalogue_perform (w : World) (d : Deed) : (w.perform d).catalogue = w.catalogue := by
  cases d with
  | addTile p flags =>
    unfold perform addTile
    dsimp only
    split <;> rfl
  | placeItem p id amount => exact catalogue_ensureTile w p
  | addCreature c =>
    exact (catalogue_ensureTile (w.leaveTile c.id) c.position).trans (catalogue_leaveTile w c.id)
  | removeCreature id =>
    refine Eq.trans ?_ (catalogue_leaveTile w id)
    unfold perform removeCreature
    dsimp only
    split <;> rfl
  | round r =>
    exact take_induction (P := fun w' => w'.catalogue = w.catalogue)
      (fun c _ _ hchange h => (hchange.frame c).catalogue.trans h) (fun _ _ h => h) w r rfl

theorem catalogue_run (w : World) (deeds : List Deed) : (w.run deeds).catalogue = w.catalogue := by
  induction deeds generalizing w with
  | nil => rfl
  | cons d deeds ih => exact (ih (w.perform d)).trans (catalogue_perform w d)

/-! ## §3. Saving and loading. -/

/-- A settled place is loaded with its flags, or not at all when its tile is static. -/
theorem Settled.reloads (h : w.Settled p flags static) (d : Disk) (path : String) (caching : Bool)
    (hroom : (d.create? path).isSome) :
    ∃ d' m report, WorldFile.save d path w.map = (.ok (WorldFile.keptTiles w.map).length, d')
      ∧ WorldFile.load d' path w.catalogue caching = .ok (m, report)
      ∧ (m.tile? p).map Tile.flags = if static then none else some flags := by
  obtain ⟨d', hsave, hholds⟩ := WorldFile.save_holds d path w.map hroom
  refine ⟨d', w.map.reread, _, hsave, WorldFile.load_of_holds w.map caching hholds, ?_⟩
  obtain ⟨t, ht, rfl, rfl⟩ := h
  rw [TileMap.tile?_reread, show w.map.tile? p = some t from ht, Option.bind_some]
  split <;> rfl

/-- **An added tile is loaded with its flags,** whatever happens before and after, as long as no later
    deed adds it again and no placeholder stands where it is added.  Over a placeholder it is lost. -/
theorem added_tile_reloads (types : Catalogue) (rules : Rules) (seed : UInt64)
    (before after : List Deed) (p : Position) (flags : TileFlags)
    (hlast : ∀ others, .addTile p others ∉ after) (d : Disk) (path : String) (caching : Bool)
    (hroom : (d.create? path).isSome) :
    let w := (World.new types rules seed).run before
    let w' := (World.new types rules seed).run (before ++ .addTile p flags :: after)
    ∃ d' m report, WorldFile.save d path w'.map = (.ok (WorldFile.keptTiles w'.map).length, d')
      ∧ WorldFile.load d' path types caching = .ok (m, report)
      ∧ (m.tile? p).map Tile.flags
        = if (w.tile? p).any Tile.isStatic then none else some flags := by
  intro w w'
  have hrun : w' = (w.addTile p flags).run after := by
    show List.foldl _ _ _ = _
    rw [List.foldl_append]
    rfl
  have hsettled : w'.Settled p flags ((w.tile? p).any Tile.isStatic) := by
    rw [hrun]
    exact (settled_addTile w p flags).run hlast
  have htypes : w'.catalogue = types := catalogue_run (World.new types rules seed) _
  rw [← htypes]
  exact hsettled.reloads d path caching hroom

/-- A tile that is added first, and then gets an item and a creature. -/
theorem added_tile_reloads_first :
    let p : Position := ⟨100, 100, 7⟩
    let after : List Deed :=
      [.placeItem p 100 1, .addCreature (.new ⟨1⟩ "knight" .player p), .round (.tick 1000)]
    let w := (World.new .empty {} 0).run (.addTile p { protectionZone := true } :: after)
    (∀ others, .addTile p others ∉ after) ∧ (Disk.empty.create? "w").isSome
      ∧ ∃ d' m report,
          WorldFile.save .empty "w" w.map = (.ok (WorldFile.keptTiles w.map).length, d')
            ∧ WorldFile.load d' "w" .empty true = .ok (m, report)
            ∧ (m.tile? p).map Tile.flags = some { protectionZone := true } := by
  intro p after w
  have hlast : ∀ others, Deed.addTile p others ∉ after := by
    intro others hmem
    simp [after] at hmem
  exact ⟨hlast, Disk.isSome_create?_empty, added_tile_reloads .empty {} 0 [] after p
    { protectionZone := true } hlast .empty "w" true Disk.isSome_create?_empty⟩

/-- **A tile that is added where an item lies** has its flags, and is not saved. -/
theorem tile_over_placeholder_lost :
    let p : Position := ⟨100, 100, 7⟩
    let w := (World.new .empty {} 0).run
      [.placeItem p 100 1, .addTile p { protectionZone := true }]
    (w.tile? p).map Tile.flags = some { protectionZone := true }
      ∧ ∃ d' m report, WorldFile.save .empty "w" w.map = (.ok 0, d')
          ∧ WorldFile.load d' "w" .empty true = .ok (m, report) ∧ m.tile? p = none := by
  intro p w
  have hsettled : w.Settled p { protectionZone := true } true := ⟨_, rfl, rfl, rfl⟩
  have hkept : WorldFile.keptTiles w.map = [] := rfl
  obtain ⟨d', m, report, hsave, hload, hflags⟩ :=
    hsettled.reloads .empty "w" true Disk.isSome_create?_empty
  rw [hkept] at hsave
  exact ⟨rfl, d', m, report, hsave, hload, Option.map_eq_none_iff.mp hflags⟩

end

end World

end Realm
