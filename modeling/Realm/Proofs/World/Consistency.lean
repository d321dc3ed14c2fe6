/-
  Realm.Proofs.World.Consistency — creatures stand where their tiles say.

  A world is consistent when each registered creature stands once, on the tile of its place, and tiles
  list registered creatures only.  Adding tiles and items, and adding and removing creatures, keeps that,
  and so does every change that leaves creatures and tiles within a frame.

  Main statements:
  * `Consistent.addCreature` — a creature is registered, or moved, with its place on a tile;
  * `Consistent.removeCreature` — a creature is removed with its place on a tile;
  * `Consistent.of_frame` — what a frame allows keeps a world consistent.
-/
import Realm.Proofs.World.Frame

namespace Realm.World

/-! ## §1. Who stands where. -/

/-- Who stands on a place; nobody where there is no tile. -/
def standing (w : World) (p : Position) : List CreatureId :=
  ((w.tile? p).map Tile.creatures).getD []

theorem mem_standing_iff_exists (w : World) (p : Position) (id : CreatureId) :
    id ∈ w.standing p ↔ ∃ t, w.tile? p = some t ∧ id ∈ t.creatures := by
  unfold standing
  cases w.tile? p with
  | none => simp
  | some t => simp

/-- **Creatures and tiles agree.** -/
structure Consistent (w : World) : Prop where
  keyed : w.Keyed
  /-- Each registered creature stands once on its place. -/
  once : ∀ id c, w.creature? id = some c → (w.standing c.position).count id = 1
  /-- Whoever stands on a place is registered there. -/
  registered : ∀ p, ∀ id ∈ w.standing p, ∃ c, w.creature? id = some c ∧ c.position = p

namespace Consistent

variable {w : World} (h : w.Consistent)

include h

/-- No one stands twice on a place. -/
theorem nodup_standing (p : Position) : (w.standing p).Nodup := by
  rw [List.nodup_iff_count]
  intro id
  by_cases hid : id ∈ w.standing p
  · obtain ⟨c, hc, rfl⟩ := h.registered p id hid
    exact Nat.le_of_eq (h.once id c hc)
  · rw [List.count_eq_zero_of_not_mem hid]
    exact Nat.zero_le 1

/-- A registered creature stands on its place, and nowhere else. -/
theorem mem_standing_iff {id : CreatureId} {c : Creature} (hc : w.creature? id = some c)
    (p : Position) : id ∈ w.standing p ↔ c.position = p := by
  constructor
  · intro hid
    obtain ⟨d, hd, hplace⟩ := h.registered p id hid
    obtain rfl := Option.some.inj (hc.symm.trans hd)
    exact hplace
  · rintro rfl
    rw [← List.count_pos_iff, h.once id c hc]
    exact Nat.zero_lt_one

end Consistent

/-! ## §2. Building worlds. -/

theorem consistent_new (types : Catalogue) (rules : Rules) (seed : UInt64) :
    (World.new types rules seed).Consistent := by
  have hnobody : ∀ id, (World.new types rules seed).creature? id = none :=
    fun id => Std.ExtTreeMap.getElem?_empty
  have hnowhere : ∀ p, (World.new types rules seed).tile? p = none :=
    fun p => Std.ExtTreeMap.getElem?_empty
  constructor
  · intro id c hc
    rw [hnobody] at hc
    cases hc
  · intro id c hc
    rw [hnobody] at hc
    cases hc
  · intro p id hid
    rw [standing, hnowhere] at hid
    exact absurd hid List.not_mem_nil

/-- A change that leaves each creature's name and place, and who stands where. -/
theorem Consistent.of_places {w w' : World} (h : w.Consistent)
    (hplaces : ∀ id, (w'.creature? id).map (fun c => (c.id, c.position))
      = (w.creature? id).map fun c => (c.id, c.position))
    (hstanding : ∀ p, w'.standing p = w.standing p) : w'.Consistent := by
  have hbefore : ∀ id c', w'.creature? id = some c' →
      ∃ c, w.creature? id = some c ∧ c.id = c'.id ∧ c.position = c'.position := by
    intro id c' hc'
    have hid := hplaces id
    rw [hc', Option.map_some] at hid
    obtain ⟨c, hc, hsame⟩ := Option.map_eq_some_iff.1 hid.symm
    exact ⟨c, hc, congrArg Prod.fst hsame, congrArg Prod.snd hsame⟩
  constructor
  · intro id c' hc'
    obtain ⟨c, hc, hid, -⟩ := hbefore id c' hc'
    rw [← hid, h.keyed id c hc]
  · intro id c' hc'
    obtain ⟨c, hc, -, hplace⟩ := hbefore id c' hc'
    rw [hstanding, ← hplace]
    exact h.once id c hc
  · intro p id hid
    rw [hstanding] at hid
    obtain ⟨c, hc, hplace⟩ := h.registered p id hid
    have hafter := hplaces id
    rw [hc, Option.map_some] at hafter
    obtain ⟨c', hc', hsame⟩ := Option.map_eq_some_iff.1 hafter
    exact ⟨c', hc', (congrArg Prod.snd hsame).trans hplace⟩

/-- A change that leaves the creatures, and who stands where. -/
theorem Consistent.of_standing {w w' : World} (h : w.Consistent)
    (hcreatures : w'.creatures = w.creatures) (hstanding : ∀ p, w'.standing p = w.standing p) :
    w'.Consistent := by
  refine h.of_places (fun id => ?_) hstanding
  rw [creature?, creature?, hcreatures]

/-- A change of a tile that leaves the creatures on it. -/
theorem standing_modifyTile (w : World) (p : Position) {f : Tile → Tile}
    (hf : ∀ t, (f t).creatures = t.creatures) (q : Position) :
    (w.modifyTile p f).standing q = w.standing q := by
  unfold standing
  rw [tile?_modifyTile]
  split
  · cases w.tile? q with
    | none => rfl
    | some t => exact hf t
  · rfl

theorem standing_ensureTile (w : World) (p q : Position) :
    (w.ensureTile p).standing q = w.standing q := by
  unfold standing
  rw [tile?_ensureTile]
  split
  · cases w.tile? q <;> rfl
  · rfl

theorem Consistent.addTile {w : World} (h : w.Consistent) (p : Position) (flags : TileFlags) :
    (w.addTile p flags).Consistent := by
  unfold World.addTile
  split
  · exact h.of_standing rfl (standing_modifyTile w p fun _ => rfl)
  · rename_i hnone
    refine h.of_standing rfl fun q => ?_
    have htile : World.tile? { w with map := w.map.setTile p { flags } } q
        = if p = q then some { flags } else w.tile? q := w.map.tile?_setTile p { flags } q
    unfold standing
    rw [htile]
    split
    · rename_i hsame
      rw [← hsame, hnone]
      rfl
    · rfl

/-- In a consistent world, leaving one's tile is leaving all of them. -/
theorem standing_leaveTile {w : World} (h : w.Consistent) (id : CreatureId) (p : Position) :
    (w.leaveTile id).standing p = (w.standing p).filter (· ≠ id) := by
  have hstay : id ∉ w.standing p → (w.standing p).filter (· ≠ id) = w.standing p := by
    intro hnot
    rw [List.filter_eq_self]
    intro other hother
    rw [decide_eq_true_eq]
    rintro rfl
    exact hnot hother
  unfold leaveTile
  cases hc : w.creature? id with
  | none =>
    rw [hstay]
    intro hid
    obtain ⟨c, hc', -⟩ := h.registered p id hid
    rw [hc] at hc'
    cases hc'
  | some c =>
    show (w.modifyTile c.position (·.removeCreature id)).standing p = _
    by_cases hplace : c.position = p
    · unfold standing
      rw [tile?_modifyTile, if_pos hplace]
      cases w.tile? p <;> rfl
    · rw [hstay fun hid => hplace ((h.mem_standing_iff hc p).1 hid)]
      unfold standing
      rw [tile?_modifyTile, if_neg hplace]

theorem creatures_leaveTile (w : World) (id : CreatureId) :
    (w.leaveTile id).creatures = w.creatures := by
  unfold leaveTile
  split <;> rfl

/-- Who stands where after a creature was added: it stands on top of its place, and nowhere else. -/
theorem standing_addCreature {w : World} (h : w.Consistent) (c : Creature) (p : Position) :
    (w.addCreature c).standing p
      = if c.position = p then c.id :: (w.standing p).filter (· ≠ c.id)
        else (w.standing p).filter (· ≠ c.id) := by
  have hleft := standing_leaveTile h c.id p
  rw [← standing_ensureTile _ c.position] at hleft
  generalize hw : (w.leaveTile c.id).ensureTile c.position = w' at hleft
  have hadded : (w.addCreature c).tile? p
      = if c.position = p then (w'.tile? p).map (·.addCreature c.id) else w'.tile? p := by
    rw [← hw]
    exact tile?_modifyTile _ _ _ _
  by_cases hplace : c.position = p
  · -- the place has a tile by now, and the creature is on none
    have htile : (w'.tile? p).isSome = true := by
      rw [← hw, tile?_ensureTile, if_pos hplace]
      rfl
    obtain ⟨t, ht⟩ := Option.isSome_iff_exists.1 htile
    have hothers : t.creatures = (w.standing p).filter (· ≠ c.id) := by
      rw [← hleft, standing, ht]
      rfl
    rw [if_pos hplace, standing, hadded, if_pos hplace, ht]
    show c.id :: t.creatures.filter (· ≠ c.id) = _
    rw [hothers, List.filter_filter]
    simp only [Bool.and_self]
  · rw [if_neg hplace, ← hleft]
    unfold standing
    rw [hadded, if_neg hplace]

theorem creature?_addCreature (w : World) (c : Creature) (id : CreatureId) :
    (w.addCreature c).creature? id = if c.id = id then some c else w.creature? id := by
  show (((w.leaveTile c.id).ensureTile c.position).creatures.insert c.id c)[id]? = _
  have hleft : ((w.leaveTile c.id).ensureTile c.position).creatures = w.creatures :=
    creatures_leaveTile w c.id
  rw [hleft, Std.ExtTreeMap.getElem?_insert]
  simp only [Std.compare_eq_iff_eq]
  rfl

theorem Keyed.addCreature {w : World} (h : w.Keyed) (c : Creature) : (w.addCreature c).Keyed := by
  intro id d hd
  rw [creature?_addCreature] at hd
  split at hd
  · rename_i hid
    rw [← Option.some.inj hd, hid]
  · exact h id d hd

/-- **A creature is registered,** or moved, with its place on a tile. -/
theorem Consistent.addCreature {w : World} (h : w.Consistent) (c : Creature) :
    (w.addCreature c).Consistent := by
  constructor
  · exact h.keyed.addCreature c
  · intro id d hd
    rw [creature?_addCreature] at hd
    rw [standing_addCreature h]
    -- wherever it stood before, the creature counts on its new place only
    have hout : ((w.standing d.position).filter (· ≠ c.id)).count c.id = 0 := by
      rw [List.count_eq_zero]
      simp
    split at hd
    · rename_i hid
      obtain rfl := Option.some.inj hd
      rw [if_pos rfl, ← hid, List.count_cons_self, hout]
    · rename_i hother
      have hkept : ((w.standing d.position).filter (· ≠ c.id)).count id = 1 := by
        rw [List.count_filter (by simpa using fun hid => hother hid.symm)]
        exact h.once id d hd
      split
      · rw [List.count_cons_of_ne hother, hkept]
      · exact hkept
  · intro p id hid
    rw [creature?_addCreature]
    rw [standing_addCreature h] at hid
    have hstays : id ∈ (w.standing p).filter (· ≠ c.id) →
        ∃ d, (if c.id = id then some c else w.creature? id) = some d ∧ d.position = p := by
      intro hid
      rw [List.mem_filter, decide_eq_true_eq] at hid
      rw [if_neg fun hsame => hid.2 hsame.symm]
      exact h.registered p id hid.1
    split at hid
    · rename_i hplace
      rcases List.mem_cons.1 hid with rfl | hid
      · exact ⟨c, if_pos rfl, hplace⟩
      · exact hstays hid
    · exact hstays hid

theorem Consistent.placeItem {w : World} (h : w.Consistent) (p : Position) (id amount : UInt16) :
    (w.placeItem p id amount).Consistent := by
  refine h.of_standing rfl fun q => ?_
  rw [← standing_ensureTile w p q]
  exact standing_modifyTile (f := (·.addItem (.new w.catalogue id amount))) (w.ensureTile p) p
    (fun _ => rfl) q

theorem creature?_removeCreature (w : World) (id other : CreatureId) :
    (w.removeCreature id).creature? other = if id = other then none else w.creature? other := by
  have hleft : ∀ other, (w.leaveTile id).creature? other = w.creature? other := by
    intro other
    rw [creature?, creature?, creatures_leaveTile]
  unfold removeCreature
  dsimp only
  rw [hleft]
  split
  · show ((w.leaveTile id).creatures.erase id)[other]? = _
    rw [creatures_leaveTile, Std.ExtTreeMap.getElem?_erase]
    simp only [Std.compare_eq_iff_eq]
    rfl
  · rename_i hnone
    rw [hleft]
    split
    · rename_i hsame
      rw [← hsame, hnone]
    · rfl

/-- Whoever is there after a removal is another, and was there before. -/
theorem of_creature?_removeCreature {w : World} {id other : CreatureId} {c : Creature}
    (hc : (w.removeCreature id).creature? other = some c) :
    id ≠ other ∧ w.creature? other = some c := by
  rw [creature?_removeCreature] at hc
  split at hc
  · cases hc
  · exact ⟨‹_›, hc⟩

theorem standing_removeCreature (w : World) (id : CreatureId) (p : Position) :
    (w.removeCreature id).standing p = (w.leaveTile id).standing p := by
  unfold removeCreature
  dsimp only
  split <;> rfl

/-- **A creature is removed** with its place on a tile. -/
theorem Consistent.removeCreature {w : World} (h : w.Consistent) (id : CreatureId) :
    (w.removeCreature id).Consistent := by
  have hstanding : ∀ p, (w.removeCreature id).standing p = (w.standing p).filter (· ≠ id) := by
    intro p
    rw [standing_removeCreature, standing_leaveTile h]
  constructor
  · exact fun other c hc => h.keyed other c (of_creature?_removeCreature hc).2
  · intro other c hc
    obtain ⟨hother, hc⟩ := of_creature?_removeCreature hc
    rw [hstanding, List.count_filter (by simpa using fun hid => hother hid.symm)]
    exact h.once other c hc
  · intro p other hid
    rw [hstanding, List.mem_filter, decide_eq_true_eq] at hid
    rw [creature?_removeCreature, if_neg fun hsame => hid.2 hsame.symm]
    exact h.registered p other hid.1

/-! ## §3. Changes within a frame. -/

section

variable {hurt marked armed : CreatureId → Prop} {gain : Position → Nat} {w w' : World}

/-- A change within a frame moves nobody. -/
theorem Frame.standing_eq (h : Frame hurt marked armed gain w w') (p : Position) :
    w'.standing p = w.standing p := by
  unfold standing
  rcases h.tile p with ⟨hbefore, hafter⟩ | ⟨added, -, hafter⟩
  · rw [hbefore, hafter]
  · rw [hafter]
    cases w.tile? p <;> rfl

/-- **What a frame allows keeps a world consistent.** -/
theorem Consistent.of_frame (h : w.Consistent) (hframe : Frame hurt marked armed gain w w') :
    w'.Consistent := by
  refine h.of_places (fun id => ?_) hframe.standing_eq
  exact map_eq_of_rel (hframe.creature id) fun c c' hwithin =>
    Prod.ext hwithin.id_eq hwithin.position_eq

end

end Realm.World
