/-
  Realm.Proofs.Combat.Agreement — a cast on a creature, and the same cast on its place.

  The two go different ways.  On a creature, the effect is shown on the creature and a blow may follow;
  on a place, tiles are looked up and judged, their creatures picked, items laid, and the caster's player
  may be kept in a fight.  None of what surrounds the impact hurts anybody or throws dice.  So where a
  creature is alone on a tile that the cast may reach, both ways come to one thing: the impact on that
  creature, if it may be affected, and else nothing.

  Main statements:
  * `alike_resolveTile` — a run over the tile of a lone creature is the impact on it;
  * `enter_alike` — both ways leave all creatures and the dice alike, and as the impact leaves them.
-/
import Realm.Proofs.Combat.Shelter

namespace Realm

/-! ## §1. Worlds that are alike. -/

namespace World

/-- **Worlds that are alike:** the same creatures with the same vitals and conditions, and the same dice.
    Maps, fights, weapons and events may differ. -/
structure Alike (w w' : World) : Prop where
  condition : ∀ id, (w'.creature? id).map (fun c => (c.vitals, c.conditions))
    = (w.creature? id).map fun c => (c.vitals, c.conditions)
  dice : w'.dice = w.dice

namespace Alike

variable {w w' w'' : World}

theorem refl (w : World) : Alike w w := ⟨fun _ => rfl, rfl⟩

theorem symm (h : Alike w w') : Alike w' w := ⟨fun id => (h.condition id).symm, h.dice.symm⟩

theorem trans (h : Alike w w') (h' : Alike w' w'') : Alike w w'' :=
  ⟨fun id => (h'.condition id).trans (h.condition id), h'.dice.trans h.dice⟩

/-- A change that hurts nobody and throws no dice. -/
theorem of_frame {marked armed : CreatureId → Prop} {gain : Position → Nat}
    (h : Frame (fun _ => False) marked armed gain w w') (hdice : w'.dice = w.dice) : Alike w w' :=
  ⟨fun _ => h.condition_of_unhurt not_false, hdice⟩

end Alike

/-! ## §2. What throws no dice. -/

section

variable (w : World)

theorem dice_noteAttack (attacker target : CreatureId) :
    (w.noteAttack attacker target).dice = w.dice := by
  rcases noteAttack_cases w attacker target with hsame | ⟨_, _, _, _, _, hchanged⟩
  · rw [hsame]
  · rw [hchanged]
    rfl

theorem dice_extendFight (id : CreatureId) (ticks : UInt32) (lock : Bool) :
    (w.extendFight id ticks lock).dice = w.dice := by
  unfold extendFight
  split
  · rfl
  · split <;> rfl

theorem dice_attackedCreature (attacker target : CreatureId) :
    (w.attackedCreature attacker target).dice = w.dice := by
  unfold attackedCreature
  dsimp only
  split
  · rw [dice_extendFight, dice_noteAttack]
  · exact dice_noteAttack w attacker target

theorem dice_attacked (target : CreatureId) : (w.attacked target).dice = w.dice := by
  unfold attacked
  split
  · exact dice_extendFight w target _ false
  · rfl

theorem dice_lay (p : Position) (item : Item) : (w.lay p item).dice = w.dice := by
  obtain ⟨_, _, hlaid⟩ := w.exists_lay_eq p item
  rw [hlaid]

/-- Making sure of a tile that is there changes nothing. -/
theorem ensureTile_of_tile {p : Position} {t : Tile} (hp : w.tile? p = some t) :
    w.ensureTile p = w := by
  have hmap : w.map.ensureTile p = w.map := by
    unfold TileMap.ensureTile
    rw [show w.map.tile? p = some t from hp]
  rw [ensureTile, hmap]

end

end World

/-- A place on the map is where no step leads. -/
theorem Position.translated_zero {p : Position} (h : p.OnMap) : p.translated 0 0 = some p := by
  rw [translated_eq_some_iff, Int.add_zero, Int.add_zero]
  exact ⟨⟨rfl, rfl, rfl⟩, h⟩

theorem Scene.world_change (s : Scene) (f : World → World) : (s.change f).world = f s.world := rfl

namespace Cast

variable (c : Cast)

/-! ## §3. What surrounds an impact. -/

section

variable (w : World)

theorem alike_blow (target : CreatureId) : w.Alike (c.blow w target) := by
  have hkept : c.Keeps (fun _ => False) (fun _ => 0) w (c.blow w target) := c.keeps_blow w target
  refine .of_frame hkept ?_
  unfold blow
  split
  · rfl
  · split
    · rw [World.dice_attacked, World.dice_attackedCreature]
    · rfl

theorem dice_showImpact (viewers : Nat) (p : Position) :
    (c.showImpact w viewers p).dice = w.dice := by
  unfold showImpact
  split <;> rfl

theorem dice_shoot (target : Position) : (c.shoot w target).dice = w.dice := by
  have hshown : ∀ (effect : UInt8) (e : Event),
      (if effect = Effect.none then w else w.emit e).dice = w.dice := by
    intro effect e
    split <;> rfl
  unfold shoot
  split
  · rfl
  · exact hshown _ _

theorem alike_showOn (target : CreatureId) : w.Alike (c.showOn w target) := by
  have hkept : c.Keeps (fun _ => False) (fun _ => 0) w (c.showOn w target) := c.keeps_showOn w target
  refine .of_frame hkept ?_
  unfold showOn
  split
  · rfl
  · rw [dice_shoot, dice_showImpact]

theorem alike_afterTiles (target : Position) : w.Alike (c.afterTiles w target) := by
  have hkept : c.Keeps (fun _ => False) (fun _ => 0) w (c.afterTiles w target) :=
    c.keeps_afterTiles w target
  refine .of_frame hkept ?_
  have hshot : (c.shoot w target).dice = w.dice := c.dice_shoot w target
  unfold afterTiles
  dsimp only
  split
  · split
    · rw [World.dice_extendFight, hshot]
    · exact hshot
  · exact hshot

end

theorem alike_touchTile (s : Scene) (viewers : Nat) (p : Position) :
    s.world.Alike (c.touchTile s viewers p).world := by
  have hkept : c.Keeps (fun _ => False) (fun _ => 1) s.world (c.touchTile s viewers p).world :=
    c.keeps_touchTile s viewers (Nat.le_refl 1)
  refine .of_frame hkept ?_
  -- neither the item nor what is shown needs dice
  have hlaid : (c.layField s.world p).dice = s.world.dice := by
    rw [layField_eq]
    split
    · rfl
    · exact World.dice_lay s.world p _
  unfold touchTile
  dsimp only
  split
  · exact (c.dice_showImpact _ viewers p).trans hlaid
  · exact (c.dice_showImpact _ viewers p).trans hlaid

/-! ## §4. A lone creature. -/

/-- **What a cast comes to on one creature:** its impact, where that creature may be affected. -/
def struck (w : World) (target : CreatureId) (impact : Impact) : World :=
  if c.mayAffect w target then c.impactOn w target impact else w

variable {c} {s : Scene} {target : CreatureId}

theorem apply_world (impact : Impact) :
    (c.apply s target impact).world = c.impactOn s.world target impact := rfl

/-- What asks first whether the creature may be affected comes to its impact, if all that follows then is
    alike to the impact. -/
theorem alike_asking {s' : Scene} {impact : Impact}
    (h : (c.impactOn s.world target impact).Alike s'.world) :
    (c.struck s.world target impact).Alike (if c.mayAffect s.world target then s' else s).world := by
  unfold struck
  split
  · exact h
  · exact .refl s.world

/-- A report comes after the impact, and leaves the world alone. -/
theorem alike_reported (impact : Impact) :
    (c.impactOn s.world target impact).Alike (c.report (c.apply s target impact) target).world := by
  rw [report_world, apply_world]
  exact .refl _

/-- One creature of a tile: reports and blows come after its impact. -/
theorem alike_strike (impact : Impact) :
    (c.struck s.world target impact).Alike (c.strike impact s target).world := by
  have hreported : (c.impactOn s.world target impact).Alike
      (c.report (c.apply s target impact) target).world := alike_reported impact
  rw [strike_eq]
  refine alike_asking ?_
  unfold land
  dsimp only
  split
  · exact hreported.trans (c.alike_blow _ target)
  · exact hreported

/-- Whoever casts, from a tile with one creature that creature is picked. -/
theorem candidates_singleton (target : CreatureId) : c.candidates [target] = [target] := by
  unfold candidates
  split
  · -- the caster, if it is the one, and else the topmost
    cases c.caster with
    | none => rfl
    | some caster =>
      dsimp only
      split
      · rename_i hcaster
        rw [List.mem_singleton.1 hcaster]
      · rfl
  · rfl

/-- **A target in the open:** a registered creature that is alone on its tile, which lies on the map and
    which the cast may reach. -/
structure InTheOpen (c : Cast) (w : World) (target : CreatureId) (t : Creature) (tile : Tile) : Prop
    where
  registered : w.creature? target = some t
  stands : w.tile? t.position = some tile
  alone : tile.creatures = [target]
  onMap : t.position.OnMap
  reached : w.verdictOnTile (c.caster? w) t.position tile c.settings.aggressive = .allowed

section

variable {t : Creature} {tile : Tile} (h : c.InTheOpen s.world target t tile)

include h

/-- Of such a target's place, a combat without an area covers that place, and nothing has to be put
    there. -/
theorem cover_of_open (harea : c.combat.area = none) :
    c.cover s.world t.position = ([t.position], s.world) := by
  have hhere := Position.translated_zero h.onMap
  unfold cover
  -- the place gets a name, lest the bounds of the map be computed
  generalize t.position.translated 0 0 = here at hhere ⊢
  rw [harea, hhere]
  dsimp only
  rw [World.ensureTile_of_tile s.world h.stands]

/-- **A run over the tile of a lone creature** is the impact on that creature. -/
theorem alike_resolveTile (hw : s.world.Consistent) (impact : Impact) (viewers : Nat) :
    (c.struck s.world target impact).Alike (c.resolveTile impact viewers s t.position).world := by
  have hacts : c.actsOn s.world t.position = true := by
    rw [actsOn, h.stands, Option.any_some, h.reached]
    rfl
  have hstanding : s.world.standing t.position = [target] := by
    rw [World.standing, h.stands]
    exact h.alone
  have htaken : c.takenFrom s.world t.position tile = [target] := by
    rw [c.takenFrom_eq hw h.stands, hstanding, candidates_singleton]
  rw [resolveTile_eq, h.stands]
  dsimp only
  rw [if_pos hacts, htaken]
  -- the one creature first, and then what its tile gets
  exact (alike_strike impact).trans (c.alike_touchTile _ viewers t.position)

/-- **The impact on a lone creature's place** is the impact on that creature. -/
theorem alike_onPlace (hw : s.world.Consistent) (harea : c.combat.area = none) (impact : Impact) :
    (c.struck s.world target impact).Alike (c.onPlace s t.position impact).world := by
  rw [onPlace_eq, cover_of_open h harea]
  generalize c.audience s.world t.position = viewers
  have htile := alike_resolveTile h hw impact viewers
  rw [Scene.world_change]
  exact htile.trans (c.alike_afterTiles _ t.position)

end

/-! ## §5. Ways that correspond. -/

/-- **Ways to cast that correspond:** an impact on a creature, and the same impact on a place.  All
    that a combat without damage does to a creature corresponds to casting that combat at the place,
    too. -/
inductive Entry.Corresponds (c : Cast) (target : CreatureId) (p : Position) :
    Impact → Entry → Entry → Prop
  | health (bounds : Span) : Corresponds c target p (.health bounds) (.healthOn target bounds)
      (.impactAt p (.health bounds))
  | mana (bounds : Span) : Corresponds c target p (.mana bounds) (.manaOn target bounds)
      (.impactAt p (.mana bounds))
  | conditions : Corresponds c target p .conditions (.conditionsOn target) (.impactAt p .conditions)
  | dispel : Corresponds c target p .dispel (.dispelOn target) (.impactAt p .dispel)
  | plain : Corresponds c target p .plain (.plainOn target) (.impactAt p .plain)
  | whole (hnone : c.settings.damageType = .none) :
      Corresponds c target p .plain (.plainOn target) (.atPlace p)

/-- On a creature, health is followed by its showing only. -/
theorem alike_onHealth (bounds : Span) :
    (c.struck s.world target (.health bounds)).Alike (c.onHealth s target bounds).world := by
  unfold onHealth
  refine alike_asking ?_
  rw [Scene.world_change, apply_world]
  exact c.alike_showOn _ target

theorem alike_onMana (bounds : Span) :
    (c.struck s.world target (.mana bounds)).Alike (c.onMana s target bounds).world := by
  unfold onMana
  refine alike_asking ?_
  rw [Scene.world_change]
  exact (alike_reported (.mana bounds)).trans (c.alike_showOn _ target)

/-- A blow that follows on an impact hurts nobody. -/
theorem alike_withBlow (impact : Impact) :
    (c.struck s.world target impact).Alike (c.withBlow s target impact).world := by
  unfold withBlow
  refine alike_asking ?_
  have hreported : (c.impactOn s.world target impact).Alike
      (c.report (c.apply s target impact) target).world := alike_reported impact
  rw [Scene.world_change]
  exact (hreported.trans (c.alike_showOn _ target)).trans (c.alike_blow _ target)

theorem alike_onPlain {t : Creature} (ht : s.world.creature? target = some t) :
    (c.struck s.world target .plain).Alike (c.onPlain s target).world := by
  unfold onPlain
  rw [ht]
  refine alike_asking ?_
  -- here the report comes after the tile was touched
  have htouched := c.alike_touchTile (c.apply s target .plain) (s.world.viewers t.position) t.position
  rw [Scene.world_change, report_world]
  exact htouched.trans (c.alike_showOn _ target)

section

variable {t : Creature} {p : Position} {impact : Impact} {e e' : Entry}

/-- Each cast on a registered creature comes to its impact. -/
theorem alike_aimed (ht : s.world.creature? target = some t)
    (h : Entry.Corresponds c target p impact e e') :
    (c.struck s.world target impact).Alike (c.enter s e).world := by
  cases h with
  | health bounds => exact alike_onHealth bounds
  | mana bounds => exact alike_onMana bounds
  | conditions => exact alike_withBlow .conditions
  | dispel => exact alike_withBlow .dispel
  | plain => exact alike_onPlain ht
  | whole _ => exact alike_onPlain ht

/-- So does each cast on the place, if the impact there does. -/
theorem alike_placed
    (hplace : ∀ impact, (c.struck s.world target impact).Alike (c.onPlace s p impact).world)
    (h : Entry.Corresponds c target p impact e e') :
    (c.struck s.world target impact).Alike (c.enter s e').world := by
  cases h with
  | health bounds => exact hplace (.health bounds)
  | mana bounds => exact hplace (.mana bounds)
  | conditions => exact hplace .conditions
  | dispel => exact hplace .dispel
  | plain => exact hplace .plain
  | whole hnone =>
    have hwhole : c.atPlace s p = c.onPlace s p .plain := by
      unfold atPlace
      rw [hnone]
    show World.Alike _ (c.atPlace s p).world
    rw [hwhole]
    exact hplace .plain

end

/-- **A cast on a creature and the cast on its place agree.**  In a consistent world, cast a combat
    without an area, aggressive or not, on a target in the open.  Whether it is on the creature or on its
    place, it leaves every creature with the same vitals and conditions, and the same dice; and they are
    what the impact on the target makes of them, if that may be affected, and else what they were. -/
theorem enter_alike (s : Scene) (hw : s.world.Consistent) (harea : c.combat.area = none)
    {target : CreatureId} {t : Creature} {tile : Tile} (hopen : c.InTheOpen s.world target t tile)
    {impact : Impact} {e e' : Entry} (h : Entry.Corresponds c target t.position impact e e') :
    (c.enter s e).world.Alike (c.enter s e').world
      ∧ (c.struck s.world target impact).Alike (c.enter s e').world := by
  have hplace := fun impact => alike_onPlace hopen hw harea impact
  have haimed : (c.struck s.world target impact).Alike (c.enter s e).world :=
    alike_aimed hopen.registered h
  have hplaced : (c.struck s.world target impact).Alike (c.enter s e').world := alike_placed hplace h
  exact ⟨haimed.symm.trans hplaced, hplaced⟩

/-- A knight, and a druid on the tile beside it. -/
def meadow : World :=
  ((World.new .empty {} 0).addCreature (.new ⟨1⟩ "knight" .player ⟨100, 100, 7⟩)).addCreature
    (.new ⟨2⟩ "druid" .player ⟨101, 100, 7⟩)

/-- The druid is alone in the meadow, and an assault on it and one on its tile leave it with the same
    health, and cursed. -/
theorem enter_alike_meadow :
    meadow.Consistent ∧ assault.combat.area = none
      ∧ (∃ t tile, assault.InTheOpen meadow ⟨2⟩ t tile ∧ t.position = ⟨101, 100, 7⟩)
      ∧ (assault.enter ⟨meadow, []⟩ (.healthOn ⟨2⟩ ⟨-20, -20⟩)).world.Alike
        (assault.enter ⟨meadow, []⟩ (.impactAt ⟨101, 100, 7⟩ (.health ⟨-20, -20⟩))).world
      ∧ ((assault.enter ⟨meadow, []⟩ (.impactAt ⟨101, 100, 7⟩ (.health ⟨-20, -20⟩))).world.creature?
        ⟨2⟩).map (fun t => (t.vitals.health, t.conditions.map Condition.kind))
          = some (140, [.cursed]) := by
  have hmeadow : meadow.Consistent :=
    ((World.consistent_new _ _ _).addCreature _).addCreature _
  have hdruid : meadow.creature? ⟨2⟩ = some (.new ⟨2⟩ "druid" .player ⟨101, 100, 7⟩) :=
    (World.creature?_addCreature _ _ _).trans (if_pos rfl)
  have hplace : (meadow.tile? ⟨101, 100, 7⟩).map (fun tile => (tile.creatures,
      meadow.verdictOnTile (assault.caster? meadow) ⟨101, 100, 7⟩ tile assault.settings.aggressive))
        = some ([⟨2⟩], .allowed) := by
    decide
  obtain ⟨tile, htile, hfound⟩ := Option.map_eq_some_iff.1 hplace
  have hopen : assault.InTheOpen meadow ⟨2⟩ (.new ⟨2⟩ "druid" .player ⟨101, 100, 7⟩) tile :=
    ⟨hdruid, htile, congrArg Prod.fst hfound, by decide, congrArg Prod.snd hfound⟩
  have hways : Entry.Corresponds assault ⟨2⟩ ⟨101, 100, 7⟩ (.health ⟨-20, -20⟩)
      (.healthOn ⟨2⟩ ⟨-20, -20⟩) (.impactAt ⟨101, 100, 7⟩ (.health ⟨-20, -20⟩)) := .health ⟨-20, -20⟩
  obtain ⟨hagree, -⟩ := enter_alike ⟨meadow, []⟩ hmeadow rfl hopen hways
  exact ⟨hmeadow, rfl, ⟨_, tile, hopen, rfl⟩, hagree, by decide⟩

end Cast

end Realm
