/-
  Realm.Proofs.Combat.Frame — what a cast leaves of a world.

  A cast hurts the creatures that it is meant for, marks the player in charge of its caster, wears the
  caster's weapon, and leaves at most one item on each tile that it acts on.  Each of its steps is
  framed by that, and the steps compose along the tiles and along the creatures of each tile.

  Main statement:
  * `enter_frame` — the frame of every way to cast a combat.
-/
import Realm.Combat.Cast
import Realm.Proofs.World.Legality

namespace Realm

/-! ## §1. Conditions. -/

namespace World

variable {hurt marked armed : CreatureId → Prop} {gain : Position → Nat} (w : World)

/-- New conditions for a hurt creature. -/
theorem frame_setConditions {target : CreatureId} (hhurt : hurt target) {f : Creature → Creature}
    (hf : ∀ c, ∃ ds, f c = { c with conditions := ds }) :
    Frame hurt marked armed gain w (w.modifyCreature target f) := by
  refine .modifyCreature target f fun c _ => ?_
  obtain ⟨ds, hds⟩ := hf c
  rw [hds]
  exact ⟨rfl, fun hno => absurd hhurt hno, fun _ => ⟨rfl, rfl, rfl⟩, fun _ => rfl, fun _ => .inl rfl⟩

end World

/-! ## §2. Whom a cast marks and arms. -/

namespace Cast

variable (c : Cast) {hurt : CreatureId → Prop} {gain : Position → Nat} {w w' w'' : World}

/-- The caster, whose weapon may be worn. -/
def Arms (w : World) (id : CreatureId) : Prop := ∃ caster, c.caster? w = some caster ∧ caster.id = id

/-- The player in charge of the caster, whom a fight may mark. -/
def Marks (w : World) (id : CreatureId) : Prop :=
  ∃ player, (c.caster? w).bind w.playerInCharge = some player ∧ player.id = id

/-- **A step of a cast** that may hurt some creatures and leave items on some places. -/
def Keeps (hurt : CreatureId → Prop) (gain : Position → Nat) (w w' : World) : Prop :=
  w.Frame hurt (c.Marks w) (c.Arms w) gain w'

theorem caster?_fixed {marked armed : CreatureId → Prop} (h : w.Frame hurt marked armed gain w') :
    (c.caster? w').map Creature.fixed = (c.caster? w).map Creature.fixed := by
  unfold caster?
  cases c.caster with
  | none => rfl
  | some id => exact h.creature?_fixed id

theorem inCharge_fixed {marked armed : CreatureId → Prop} (h : w.Frame hurt marked armed gain w') :
    ((c.caster? w').bind w'.playerInCharge).map Creature.fixed
      = ((c.caster? w).bind w.playerInCharge).map Creature.fixed := by
  have hcaster := c.caster?_fixed h
  cases hw : c.caster? w with
  | none =>
    rw [hw, Option.map_none, Option.map_eq_none_iff] at hcaster
    rw [hcaster]
    rfl
  | some a =>
    rw [hw] at hcaster
    obtain ⟨a', ha', hfixed⟩ := Option.map_eq_some_iff.1 hcaster
    rw [ha']
    exact h.playerInCharge_fixed hfixed

/-- Creatures found before and after are the same by name. -/
theorem exists_id_iff {m m' : Option Creature} (h : m'.map Creature.fixed = m.map Creature.fixed)
    (id : CreatureId) : (∃ d, m' = some d ∧ d.id = id) ↔ ∃ d, m = some d ∧ d.id = id := by
  rw [← Option.map_eq_some_iff, ← Option.map_eq_some_iff,
    Creature.map_of_fixed h Creature.id fun _ => rfl]

/-- No step changes whom a cast marks and arms. -/
theorem marks_eq {marked armed : CreatureId → Prop} (h : w.Frame hurt marked armed gain w') :
    c.Marks w' = c.Marks w := by
  funext id
  exact propext (exists_id_iff (c.inCharge_fixed h) id)

theorem arms_eq {marked armed : CreatureId → Prop} (h : w.Frame hurt marked armed gain w') :
    c.Arms w' = c.Arms w := by
  funext id
  exact propext (exists_id_iff (c.caster?_fixed h) id)

namespace Keeps

variable {c} {hurt' : CreatureId → Prop} {gain' : Position → Nat}

theorem refl (w : World) : c.Keeps hurt gain w w := World.Frame.refl w

theorem mono (h : c.Keeps hurt gain w w') (hhurt : ∀ id, hurt id → hurt' id)
    (hgain : ∀ p, gain p ≤ gain' p) : c.Keeps hurt' gain' w w' :=
  World.Frame.mono h hhurt (fun _ hid => hid) (fun _ hid => hid) hgain

/-- **Steps compose,** and the items they leave add up. -/
theorem trans (h : c.Keeps hurt gain w w') (h' : c.Keeps hurt gain' w' w'') :
    c.Keeps hurt (fun p => gain p + gain' p) w w'' := by
  unfold Keeps at h h'
  rw [c.marks_eq h, c.arms_eq h] at h'
  exact World.Frame.trans h h'

theorem trans_still (h : c.Keeps hurt gain w w') (h' : c.Keeps hurt (fun _ => 0) w' w'') :
    c.Keeps hurt gain w w'' := h.trans h'

theorem still_trans (h : c.Keeps hurt (fun _ => 0) w w') (h' : c.Keeps hurt gain w' w'') :
    c.Keeps hurt gain w w'' :=
  (h.trans h').mono (fun _ hid => hid) fun p => Nat.le_of_eq (Nat.zero_add (gain p))

end Keeps

/-! ## §3. Impacts on creatures. -/

/-- The charge that a formula costs: of whose weapon, and the weapon as it was. -/
def formulaCharge? (w : World) (player : Creature) : Option (Creature × Item) :=
  if c.combat.formula.kind = .skill then (player.weapon.filter (c.wears w)).map (player, ·) else none

/-- **The charge that finding out the change costs:** a player pays it who brings no bounds, whose
    combat has no rule of its own that answers, and whose formula goes by a weapon that wears. -/
def charge? (w : World) (target : Option CreatureId) : Option (Creature × Item) :=
  ((c.caster? w).filter fun player =>
    player.isPlayer && player.span.isNone && (c.ownSpan w player target).isNone).bind
    (c.formulaCharge? w)

/-- A world once a charge was paid, if there is one. -/
def pay (w : World) : Option (Creature × Item) → World
  | none => w
  | some (player, weapon) =>
    w.modifyCreature player.id fun p => { p with weapon := some (worn w weapon) }

theorem formulaSpan_world (w : World) (player : Creature) :
    (c.formulaSpan w player).2 = pay w (c.formulaCharge? w player) := by
  have hfree : c.combat.formula.kind ≠ .skill → pay w (c.formulaCharge? w player) = w := by
    intro hkind
    rw [formulaCharge?, if_neg hkind]
    rfl
  unfold formulaSpan
  dsimp only
  split
  · rename_i hkind
    exact (hfree (by rw [hkind]; nofun)).symm
  · rename_i hkind
    exact (hfree (by rw [hkind]; nofun)).symm
  · rename_i hkind
    exact (hfree (by rw [hkind]; nofun)).symm
  · rename_i hkind
    rw [formulaCharge?, if_pos hkind]
    cases player.weapon with
    | none => rfl
    | some weapon =>
      rw [Option.filter_some]
      dsimp only
      split <;> rfl

/-- **Finding out the change** costs a charge, or nothing. -/
theorem span_world (s : Scene) (target : Option CreatureId) :
    (c.span s target).2.world = pay s.world (c.charge? s.world target) := by
  unfold span charge?
  cases hcaster : c.caster? s.world with
  | none => rfl
  | some player =>
    have hasked : ∀ a : Act, (if c.combat.playerSpan.isSome then s.act a else s).world = s.world := by
      intro a
      split <;> rfl
    rw [Option.filter_some]
    dsimp only
    -- the first of the three that gives bounds costs nothing
    cases hspan : player.span with
    | some bounds => simp [pay]
    | none =>
      cases hplayer : player.isPlayer with
      | false => simp [pay]
      | true =>
        cases hown : c.ownSpan s.world player target with
        | some bounds => simp [hasked, pay]
        | none => simp [formulaSpan_world]

theorem caster?_of_charge? {w : World} {target : Option CreatureId} {charge : Creature × Item}
    (h : c.charge? w target = some charge) : c.caster? w = some charge.1 := by
  obtain ⟨player, hplayer, hcharge⟩ := Option.bind_eq_some_iff.1 h
  have hcaster := (Option.filter_eq_some_iff.1 hplayer).1
  unfold formulaCharge? at hcharge
  split at hcharge
  · obtain ⟨weapon, -, rfl⟩ := Option.map_eq_some_iff.1 hcharge
    exact hcaster
  · cases hcharge

/-- What finding out the change can do: nothing, or wear the caster's weapon. -/
theorem span_cases (s : Scene) (target : Option CreatureId) :
    (c.span s target).2.world = s.world
      ∨ ∃ caster weapon, c.caster? s.world = some caster
        ∧ (c.span s target).2.world
          = s.world.modifyCreature caster.id fun p => { p with weapon := some weapon } := by
  rw [span_world]
  cases hcharge : c.charge? s.world target with
  | none => exact .inl rfl
  | some charge => exact .inr ⟨charge.1, worn s.world charge.2, c.caster?_of_charge? hcharge, rfl⟩

/-- **How much a cast changes** is found out at the price of a weapon's charge at most. -/
theorem frame_span {marked : CreatureId → Prop} (s : Scene) (target : Option CreatureId) :
    s.world.Frame hurt marked (c.Arms s.world) gain (c.span s target).2.world := by
  rcases c.span_cases s target with hsame | ⟨caster, weapon, hcaster, hworn⟩
  · rw [hsame]
    exact .refl _
  · rw [hworn]
    refine World.Frame.modifyCreature caster.id _ fun p _ => ?_
    exact ⟨rfl, fun _ => ⟨rfl, rfl⟩, fun _ => ⟨rfl, rfl, rfl⟩,
      fun hno => absurd ⟨caster, hcaster, rfl⟩ hno, fun _ => .inl rfl⟩

theorem keeps_span (s : Scene) (target : Option CreatureId) :
    c.Keeps hurt gain s.world (c.span s target).2.world := c.frame_span s target

/-- However many conditions are added to a creature, nothing else of it changes. -/
theorem addConditions_eq (w : World) (target : CreatureId) :
    ∃ f : Creature → Creature, (∀ t, ∃ ds, f t = { t with conditions := ds })
      ∧ c.addConditions w target = w.modifyCreature target f := by
  refine ⟨_, fun t => ?_, rfl⟩
  induction c.settings.conditions generalizing t with
  | nil => exact ⟨t.conditions, rfl⟩
  | cons d ds ih =>
    rw [List.foldl_cons]
    split
    · have hadd : ∃ more, t.addCondition (ownedBy c.caster d) = { t with conditions := more } := by
        unfold Creature.addCondition Creature.addCondition?
        split
        · exact ⟨t.conditions, rfl⟩
        · exact ⟨_, rfl⟩
      obtain ⟨more, hmore⟩ := hadd
      obtain ⟨last, hlast⟩ := ih (t.addCondition (ownedBy c.caster d))
      rw [hmore] at hlast ⊢
      exact ⟨last, hlast⟩
    · exact ih t

theorem frame_addConditions {marked armed : CreatureId → Prop} {target : CreatureId}
    (hhurt : hurt target) (w : World) :
    w.Frame hurt marked armed gain (c.addConditions w target) := by
  obtain ⟨f, hf, hadded⟩ := c.addConditions_eq w target
  rw [hadded]
  exact World.frame_setConditions w hhurt hf

theorem frame_dispel {marked armed : CreatureId → Prop} {target : CreatureId} (hhurt : hurt target)
    (w : World) : w.Frame hurt marked armed gain (c.dispel w target) := by
  unfold dispel
  split
  · exact .refl w
  · exact World.frame_setConditions w hhurt fun t => ⟨_, rfl⟩

theorem keeps_afterChange {target : CreatureId} (hhurt : hurt target) {changed : Bool × World}
    (h : c.Keeps hurt gain w changed.2) : c.Keeps hurt gain w (c.afterChange target changed) := by
  unfold afterChange
  split
  · exact (h.trans_still (c.frame_addConditions hhurt changed.2)).trans_still
      (c.frame_dispel hhurt _)
  · exact h

theorem keeps_applyHealth {target : CreatureId} (hhurt : hurt target) (w : World) (bounds : Span) :
    c.Keeps hurt gain w (c.applyHealth w target bounds) := by
  unfold applyHealth
  dsimp only
  have hroll : c.Keeps hurt gain w (w.roll bounds.min bounds.max).2 := World.frame_roll w _ _
  generalize w.roll bounds.min bounds.max = rolled at hroll ⊢
  have hhit : c.Keeps hurt gain w
      (rolled.2.blockHit target c.settings.damageType rolled.1).2 :=
    hroll.trans_still (World.frame_blockHit rolled.2 target c.settings.damageType rolled.1)
  generalize rolled.2.blockHit target c.settings.damageType rolled.1 = hit at hhit ⊢
  split
  · exact hhit
  · exact c.keeps_afterChange hhurt (hhit.trans_still (World.frame_changeHealth hit.2 hhurt _ _ _))

theorem keeps_applyMana {target : CreatureId} (hhurt : hurt target) (w : World) (bounds : Span) :
    c.Keeps hurt gain w (c.applyMana w target bounds) := by
  unfold applyMana
  dsimp only
  have hroll : c.Keeps hurt gain w (w.roll bounds.min bounds.max).2 := World.frame_roll w _ _
  generalize w.roll bounds.min bounds.max = rolled at hroll ⊢
  exact c.keeps_afterChange hhurt (hroll.trans_still (World.frame_changeMana rolled.2 hhurt _ _))

/-- **A blow** marks the player in charge of the caster, and nobody else. -/
theorem keeps_blow (w : World) (target : CreatureId) : c.Keeps hurt gain w (c.blow w target) := by
  unfold blow
  split
  · exact .refl w
  · rename_i caster hcaster
    split
    · -- the attack is put down to whoever answers for the caster
      have hmark : ∀ a player, w.creature? caster = some a → w.playerInCharge a = some player →
          c.Marks w player.id := by
        intro a player ha hplayer
        refine ⟨player, ?_, rfl⟩
        rw [caster?, hcaster, Option.bind_some, ha]
        exact hplayer
      have hnoted : c.Keeps hurt gain w (w.attackedCreature caster target) :=
        World.frame_attackedCreature w caster target hmark
      exact hnoted.trans_still (World.frame_attacked _ target)
    · exact .refl w

/-- **An impact** hurts the creature that it is done to. -/
theorem keeps_impactOn {target : CreatureId} (hhurt : hurt target) (w : World) (impact : Impact) :
    c.Keeps hurt gain w (c.impactOn w target impact) := by
  cases impact with
  | health bounds => exact c.keeps_applyHealth hhurt w bounds
  | mana bounds => exact c.keeps_applyMana hhurt w bounds
  | conditions => exact c.frame_addConditions hhurt w
  | dispel => exact c.frame_dispel hhurt w
  | plain =>
    have hadded : c.Keeps hurt gain w (c.addConditions w target) := c.frame_addConditions hhurt w
    exact (hadded.trans_still (c.frame_dispel hhurt _)).trans_still (c.keeps_blow _ target)

/-- Reports leave the world alone. -/
@[simp] theorem report_world (s : Scene) (target : CreatureId) :
    (c.report s target).world = s.world := by
  unfold report
  split <;> rfl

/-- What is done to a creature of a tile that may be affected. -/
def land (impact : Impact) (s : Scene) (target : CreatureId) : Scene :=
  let s := c.report (c.apply s target impact) target
  if impact.countsAsAttack then s.change fun w => c.blow w target else s

theorem strike_eq (impact : Impact) (s : Scene) (target : CreatureId) :
    c.strike impact s target = if c.mayAffect s.world target then c.land impact s target else s :=
  rfl

theorem keeps_land {target : CreatureId} (hhurt : hurt target) (s : Scene) (impact : Impact) :
    c.Keeps hurt gain s.world (c.land impact s target).world := by
  have hstruck : c.Keeps hurt gain s.world (c.report (c.apply s target impact) target).world := by
    rw [report_world]
    exact c.keeps_impactOn hhurt s.world impact
  unfold land
  dsimp only
  split
  · exact hstruck.trans_still (c.keeps_blow _ target)
  · exact hstruck

theorem keeps_strike {target : CreatureId} (hhurt : hurt target) (s : Scene) (impact : Impact) :
    c.Keeps hurt gain s.world (c.strike impact s target).world := by
  rw [strike_eq]
  split
  · exact c.keeps_land hhurt s impact
  · exact .refl _

/-- **The creatures of a tile,** one after the other. -/
theorem keeps_foldl_strike (impact : Impact) (targets : List CreatureId) :
    ∀ s : Scene, (∀ id ∈ targets, hurt id) →
      c.Keeps hurt (fun _ => 0) s.world (targets.foldl (c.strike impact) s).world := by
  induction targets with
  | nil => exact fun s _ => .refl s.world
  | cons target targets ih =>
    intro s hhurt
    have hhead : c.Keeps hurt (fun _ => 0) s.world (c.strike impact s target).world :=
      c.keeps_strike (hhurt target List.mem_cons_self) s impact
    exact hhead.trans_still (ih _ fun id hid => hhurt id (List.mem_cons_of_mem target hid))

/-! ## §4. Tiles. -/

/-- A new item is not unique. -/
theorem uniqueId_new (types : Catalogue) (id : UInt16) :
    (Item.new types id 0).attributes.uniqueId = 0 := by
  apply Bag.word16_of_lookup_none
  rw [Item.lookup_new, if_neg (by decide), if_neg]
  simp [ItemType.subtypeAttribute?_eq_some]

/-- An owner does not make an item unique. -/
theorem uniqueId_setOwner (b : Bag) (owner : UInt32) : (b.setOwner owner).uniqueId = b.uniqueId := by
  apply Bag.word16_congr
  show (b.put .owner _).lookup .uniqueId = _
  rw [Bag.lookup_put, if_neg (by decide)]

/-- The item that a cast leaves on a place, in its caster's name. -/
def laidItem (w : World) (p : Position) : Item :=
  match c.caster with
  | some caster =>
    (Item.new w.catalogue (c.fieldItem w p) 0).setAttributes (·.setOwner caster.val)
  | none => Item.new w.catalogue (c.fieldItem w p) 0

theorem laidItem_id (w : World) (p : Position) : (c.laidItem w p).id = c.fieldItem w p := by
  unfold laidItem
  split
  · exact Item.new_id _ _ _
  · exact Item.new_id _ _ _

theorem uniqueId_laidItem (w : World) (p : Position) :
    (c.laidItem w p).attributes.uniqueId = 0 := by
  unfold laidItem
  split
  · exact (uniqueId_setOwner _ _).trans (uniqueId_new _ _)
  · exact uniqueId_new _ _

/-- A cast that leaves items lays the one for the place. -/
theorem layField_eq (w : World) (p : Position) :
    c.layField w p = if c.settings.itemId = 0 then w else w.lay p (c.laidItem w p) := by
  unfold layField World.lay
  rw [laidItem_id]
  rfl

theorem frame_layField {marked armed : CreatureId → Prop} (w : World) {p : Position}
    (hgain : 1 ≤ gain p) : w.Frame hurt marked armed gain (c.layField w p) := by
  rw [layField_eq]
  split
  · exact .refl w
  · exact World.frame_lay w hgain (c.uniqueId_laidItem w p)

theorem keeps_showImpact (w : World) (viewers : Nat) (p : Position) :
    c.Keeps hurt gain w (c.showImpact w viewers p) := by
  unfold showImpact
  split
  · exact .refl w
  · exact World.Frame.emit _

theorem keeps_shoot (w : World) (target : Position) : c.Keeps hurt gain w (c.shoot w target) := by
  have hshown : ∀ (effect : UInt8) (e : Event),
      c.Keeps hurt gain w (if effect = Effect.none then w else w.emit e) := by
    intro effect e
    split
    · exact .refl w
    · exact World.Frame.emit e
  unfold shoot
  split
  · exact .refl w
  · exact hshown _ _

theorem keeps_showOn (w : World) (target : CreatureId) : c.Keeps hurt gain w (c.showOn w target) := by
  unfold showOn
  split
  · exact .refl w
  · rename_i t _
    have himpact : c.Keeps hurt gain w (c.showImpact w (w.viewers t.position) t.position) :=
      c.keeps_showImpact w _ _
    exact himpact.trans_still (c.keeps_shoot _ _)

/-- **What a tile gets** is one item at most. -/
theorem keeps_touchTile (s : Scene) (viewers : Nat) {p : Position} (hgain : 1 ≤ gain p) :
    c.Keeps hurt gain s.world (c.touchTile s viewers p).world := by
  have hlaid : c.Keeps hurt gain s.world (c.layField s.world p) := c.frame_layField s.world hgain
  unfold touchTile
  dsimp only
  split
  · exact hlaid.trans_still (c.keeps_showImpact _ viewers p)
  · exact hlaid.trans_still (c.keeps_showImpact _ viewers p)

/-- **Whether a cast acts on a tile:** there is one, and the rules let the caster reach it. -/
def actsOn (w : World) (p : Position) : Bool :=
  (w.tile? p).any fun t => (w.verdictOnTile (c.caster? w) p t c.settings.aggressive).isAllowed

/-- The creatures that stand on a tile that a cast acts on. -/
def StandsIn (w : World) (p : Position) (id : CreatureId) : Prop :=
  c.actsOn w p = true ∧ ∃ t, w.tile? p = some t ∧ id ∈ t.creatures

theorem mem_of_mem_takenFrom {w : World} {p : Position} {t : Tile} {id : CreatureId}
    (h : id ∈ c.takenFrom w p t) : id ∈ t.creatures := by
  have htop : id ∈ t.topCreature.toList → id ∈ t.creatures := by
    intro hid
    exact List.mem_of_mem_head? (Option.mem_toList.1 hid)
  unfold takenFrom at h
  split at h
  · split at h
    · split at h
      · exact List.mem_of_find?_eq_some (Option.mem_toList.1 h)
      · exact htop h
    · exact htop h
  · exact h

/-- What a cast does to one tile. -/
theorem resolveTile_eq (impact : Impact) (viewers : Nat) (s : Scene) (p : Position) :
    c.resolveTile impact viewers s p = match s.world.tile? p with
      | none => s
      | some t =>
        if c.actsOn s.world p then
          c.touchTile ((c.takenFrom s.world p t).foldl (c.strike impact) s) viewers p
        else s := by
  unfold resolveTile actsOn
  cases s.world.tile? p <;> rfl

/-- **One tile:** a cast that acts on it may hurt the creatures there and leave an item. -/
theorem keeps_resolveTile (impact : Impact) (viewers : Nat) (s : Scene) {p : Position}
    (hhurt : ∀ id, c.StandsIn s.world p id → hurt id)
    (hgain : c.actsOn s.world p = true → 1 ≤ gain p) :
    c.Keeps hurt gain s.world (c.resolveTile impact viewers s p).world := by
  rw [resolveTile_eq]
  split
  · exact .refl _
  · rename_i t ht
    split
    · rename_i hacts
      have hstruck : c.Keeps hurt (fun _ => 0) s.world
          ((c.takenFrom s.world p t).foldl (c.strike impact) s).world :=
        c.keeps_foldl_strike impact _ s fun id hid =>
          hhurt id ⟨hacts, t, ht, c.mem_of_mem_takenFrom hid⟩
      exact hstruck.still_trans (c.keeps_touchTile _ viewers (hgain hacts))
    · exact .refl _

/-! ## §5. Runs of tiles. -/

/-- Whether a cast acts on a tile hangs on the tile, and on what no step changes. -/
theorem actsOn_eq {marked armed : CreatureId → Prop} (h : w.Frame hurt marked armed gain w')
    {p : Position} (htile : w'.tile? p = w.tile? p) : c.actsOn w' p = c.actsOn w p := by
  unfold actsOn
  rw [htile]
  cases w.tile? p with
  | none => rfl
  | some t =>
    rw [Option.any_some, Option.any_some, h.verdictOnTile_eq (c.caster?_fixed h)]

/-- A tile where nothing may be left is the tile that it was. -/
theorem Keeps.tile?_eq (h : c.Keeps hurt gain w w') {p : Position} (hp : (w.tile? p).isSome = true)
    (hgain : gain p = 0) : w'.tile? p = w.tile? p := by
  have htile := h.tile p
  rw [hgain] at htile
  rcases htile.eq_of_zero with hsame | ⟨hnone, -⟩
  · exact hsame
  · rw [hnone] at hp
    cases hp

theorem Keeps.isSome_tile? (h : c.Keeps hurt gain w w') {p : Position}
    (hp : (w.tile? p).isSome = true) : (w'.tile? p).isSome = true := by
  rcases h.tile p with ⟨hnone, -⟩ | ⟨_, -, hafter⟩
  · rw [hnone] at hp
    cases hp
  · rw [hafter]
    rfl

/-- **Tile by tile:** over places that are distinct, each tile is met as it was before the run. -/
theorem keeps_foldl_resolveTile (impact : Impact) (viewers : Nat) (places : List Position) :
    ∀ s : Scene, places.Nodup → (∀ p ∈ places, (s.world.tile? p).isSome = true) →
      c.Keeps (fun id => ∃ p ∈ places, c.StandsIn s.world p id)
        (fun p => if p ∈ places ∧ c.actsOn s.world p = true then 1 else 0)
        s.world (places.foldl (c.resolveTile impact viewers) s).world := by
  induction places with
  | nil => exact fun s _ _ => .refl s.world
  | cons p places ih =>
    intro s hnodup htiles
    obtain ⟨hnew, hnodup⟩ := List.nodup_cons.1 hnodup
    rw [List.foldl_cons]
    have hhead : c.Keeps (fun id => ∃ q ∈ p :: places, c.StandsIn s.world q id)
        (fun q => if q = p ∧ c.actsOn s.world p = true then 1 else 0)
        s.world (c.resolveTile impact viewers s p).world := by
      refine c.keeps_resolveTile impact viewers s (fun id hid => ⟨p, List.mem_cons_self, hid⟩) ?_
      intro hacts
      exact Nat.le_of_eq (if_pos ⟨rfl, hacts⟩).symm
    generalize c.resolveTile impact viewers s p = s₁ at hhead ⊢
    -- the tiles still to come are untouched, so the cast sees them as it saw them before
    have hsame : ∀ q ∈ places, s₁.world.tile? q = s.world.tile? q := by
      intro q hq
      have hother : q ≠ p := fun h => hnew (h ▸ hq)
      exact hhead.tile?_eq c (htiles q (List.mem_cons_of_mem p hq)) (if_neg fun h => hother h.1)
    have hacts : ∀ q ∈ places, c.actsOn s₁.world q = c.actsOn s.world q :=
      fun q hq => c.actsOn_eq hhead (hsame q hq)
    have hrest := ih s₁ hnodup fun q hq => by
      rw [hsame q hq]
      exact htiles q (List.mem_cons_of_mem p hq)
    refine (hhead.trans (hrest.mono ?_ fun _ => Nat.le_refl _)).mono (fun _ hid => hid) fun q => ?_
    · rintro id ⟨q, hq, hstands⟩
      refine ⟨q, List.mem_cons_of_mem p hq, ?_⟩
      unfold StandsIn at hstands ⊢
      rw [hacts q hq, hsame q hq] at hstands
      exact hstands
    · by_cases hq : q = p
      · subst hq
        have hout : ¬ (q ∈ places ∧ c.actsOn s₁.world q = true) := fun h => hnew h.1
        simp only [if_neg hout, List.mem_cons_self, true_and]
        omega
      · have hhere : ¬ (q = p ∧ c.actsOn s.world p = true) := fun h => hq h.1
        rw [if_neg hhere, Nat.zero_add]
        by_cases hin : q ∈ places
        · rw [hacts q hin]
          simp only [hin, List.mem_cons_of_mem p hin, true_and]
          exact Nat.le_refl _
        · rw [if_neg fun h => hin h.1]
          exact Nat.zero_le _

/-! ## §6. Places. -/

/-- **The places that a cast covers** are distinct, and only their missing tiles are new. -/
theorem cover_spec (w : World) (target : Position) :
    (c.cover w target).1.Nodup
      ∧ Area.Covered (c.cover w target).1 w.map (c.cover w target).2.map
      ∧ (c.cover w target).2 = { w with map := (c.cover w target).2.map } := by
  have hnowhere : ([] : List Position).Nodup ∧ Area.Covered [] w.map w.map
      ∧ w = { w with map := w.map } :=
    ⟨List.nodup_nil, .refl w.map, rfl⟩
  -- no place, or distinct places on a map that differs by their placeholders
  have hcases : c.cover w target = ([], w)
      ∨ (∃ places map, places.Nodup ∧ Area.Covered places w.map map
        ∧ c.cover w target = (places, { w with map })) := by
    unfold cover
    -- where the target lies on the map does not matter here
    generalize target.translated 0 0 = here
    cases c.combat.area with
    | some area =>
      dsimp only
      cases hcover : area.cover? (((c.caster? w).map Creature.position).getD target) target w.map with
      | none => exact .inl rfl
      | some covered =>
        obtain ⟨hnodup, hcovered⟩ := Area.cover?_spec _ hcover
        exact .inr ⟨covered.1, covered.2, hnodup, hcovered, rfl⟩
    | none =>
      cases here with
      | none => exact .inl rfl
      | some p =>
        exact .inr ⟨[p], w.map.ensureTile p, List.pairwise_singleton _ p, Area.Covered.cons (.refl _),
          rfl⟩
  rcases hcases with hcover | ⟨places, map, hnodup, hcovered, hcover⟩
  · rw [hcover]
    exact hnowhere
  · rw [hcover]
    exact ⟨hnodup, hcovered, rfl⟩

theorem isSome_tile?_cover {w : World} {target p : Position} (hp : p ∈ (c.cover w target).1) :
    ((c.cover w target).2.tile? p).isSome = true := by
  show ((c.cover w target).2.map.tile? p).isSome = true
  rw [(c.cover_spec w target).2.1.tile, if_pos hp]
  rfl

theorem frame_cover {marked armed : CreatureId → Prop} (w : World) (target : Position) :
    w.Frame hurt marked armed gain (c.cover w target).2 := by
  obtain ⟨-, hcovered, hmap⟩ := c.cover_spec w target
  generalize (c.cover w target).2 = w' at hcovered hmap ⊢
  generalize (c.cover w target).1 = places at hcovered
  have hcreatures : w'.creatures = w.creatures := by rw [hmap]
  exact {
    rules := by rw [hmap]
    catalogue := hcovered.catalogue
    creature := (World.Frame.of_creatures hcreatures)
    tile := fun p => by
      show Tile.Grows (gain p) (w.map.tile? p) (w'.map.tile? p)
      rw [hcovered.tile]
      split
      · refine .inr ⟨[], Nat.zero_le _, ?_⟩
        rw [List.append_nil]
      · exact .refl _ }

/-- **What follows on the tiles** marks the caster's player at most. -/
theorem keeps_afterTiles (w : World) (target : Position) :
    c.Keeps hurt gain w (c.afterTiles w target) := by
  have hshot : c.Keeps hurt gain w (c.shoot w target) := c.keeps_shoot w target
  unfold afterTiles
  dsimp only
  split
  · rename_i player hplayer
    split
    · refine hshot.trans_still ?_
      exact World.frame_extendFight _ _ _ _ fun _ => ⟨player, hplayer, rfl⟩
    · exact hshot
  · exact hshot

/-- **The places that a cast acts on:** those that it covers and may reach, once all have tiles. -/
def actedPlaces (w : World) (target : Position) : List Position :=
  (c.cover w target).1.filter (c.actsOn (c.cover w target).2)

/-- The creatures on the tiles that a cast acts on. -/
def Covers (w : World) (target : Position) (id : CreatureId) : Prop :=
  ∃ p ∈ c.actedPlaces w target, ∃ t, w.tile? p = some t ∧ id ∈ t.creatures

/-- **A cast on a place** hurts creatures on tiles that it acts on, and leaves one item on each of them
    at most. -/
theorem keeps_onPlace (s : Scene) (target : Position) (impact : Impact) :
    c.Keeps (c.Covers s.world target) (fun p => if p ∈ c.actedPlaces s.world target then 1 else 0)
      s.world (c.onPlace s target impact).world := by
  have hcover : c.Keeps (c.Covers s.world target) (fun _ => 0) s.world
      (c.cover s.world target).2 := c.frame_cover s.world target
  obtain ⟨hnodup, hcovered, -⟩ := c.cover_spec s.world target
  have hrun := fun viewers => c.keeps_foldl_resolveTile impact viewers _
    { s with world := (c.cover s.world target).2 } hnodup fun p hp => c.isSome_tile?_cover hp
  have hacted : ∀ p, p ∈ (c.cover s.world target).1 ∧ c.actsOn (c.cover s.world target).2 p = true
      ↔ p ∈ c.actedPlaces s.world target := by
    intro p
    rw [actedPlaces, List.mem_filter]
  have hstands : ∀ p ∈ (c.cover s.world target).1, ∀ id,
      c.StandsIn (c.cover s.world target).2 p id → c.Covers s.world target id := by
    rintro p hp id ⟨hacts, t, ht, hid⟩
    have htile := hcovered.tile p
    rw [if_pos hp] at htile
    obtain rfl : (s.world.map.tile? p).getD .placeholder = t :=
      Option.some.inj (htile.symm.trans ht)
    -- nobody stands on a placeholder
    cases hbefore : s.world.map.tile? p with
    | none =>
      rw [hbefore] at hid
      exact absurd hid List.not_mem_nil
    | some t =>
      rw [hbefore] at hid
      exact ⟨p, (hacted p).1 ⟨hp, hacts⟩, t, hbefore, hid⟩
  unfold onPlace
  dsimp only
  generalize (World.spectators _ _ _ _).length = viewers
  have htiles := (hrun viewers).mono (fun id ⟨p, hp, hid⟩ => hstands p hp id hid)
    fun _ => Nat.le_refl _
  simp only [hacted] at htiles
  exact (hcover.still_trans htiles).trans_still (c.keeps_afterTiles _ target)

/-! ## §7. Creatures. -/

theorem keeps_apply {target : CreatureId} (hhurt : hurt target) (s : Scene) (impact : Impact) :
    c.Keeps hurt gain s.world (c.apply s target impact).world :=
  c.keeps_impactOn hhurt s.world impact

theorem keeps_onHealth {target : CreatureId} (hhurt : hurt target) (s : Scene) (bounds : Span) :
    c.Keeps hurt gain s.world (c.onHealth s target bounds).world := by
  have happlied : c.Keeps hurt gain s.world (c.apply s target (.health bounds)).world :=
    c.keeps_apply hhurt s _
  unfold onHealth
  generalize c.apply s target (.health bounds) = hit at happlied ⊢
  split
  · exact happlied.trans_still (c.keeps_showOn hit.world target)
  · exact .refl _

theorem keeps_onMana {target : CreatureId} (hhurt : hurt target) (s : Scene) (bounds : Span) :
    c.Keeps hurt gain s.world (c.onMana s target bounds).world := by
  have happlied : c.Keeps hurt gain s.world
      (c.report (c.apply s target (.mana bounds)) target).world := by
    rw [report_world]
    exact c.keeps_apply hhurt s _
  unfold onMana
  split
  · exact happlied.trans_still (c.keeps_showOn _ target)
  · exact .refl _

theorem keeps_withBlow {target : CreatureId} (hhurt : hurt target) (s : Scene) (impact : Impact) :
    c.Keeps hurt gain s.world (c.withBlow s target impact).world := by
  have happlied : c.Keeps hurt gain s.world (c.report (c.apply s target impact) target).world := by
    rw [report_world]
    exact c.keeps_apply hhurt s _
  unfold withBlow
  split
  · exact (happlied.trans_still (c.keeps_showOn _ target)).trans_still (c.keeps_blow _ target)
  · exact .refl _

/-- **A combat without damage** on a creature leaves one item on its tile at most. -/
theorem keeps_onPlain {target : CreatureId} (hhurt : hurt target) (s : Scene)
    (hgain : ∀ t, s.world.creature? target = some t → 1 ≤ gain t.position) :
    c.Keeps hurt gain s.world (c.onPlain s target).world := by
  have happlied : c.Keeps hurt (fun _ => 0) s.world (c.apply s target .plain).world :=
    c.keeps_apply hhurt s _
  unfold onPlain
  split
  · split
    · exact .refl _
    · rename_i t ht
      have htouched := happlied.still_trans
        (c.keeps_touchTile _ (s.world.viewers t.position) (hgain t ht))
      have hreported : c.Keeps hurt gain s.world (c.report
          (c.touchTile (c.apply s target .plain) (s.world.viewers t.position) t.position)
          target).world := by
        rw [report_world]
        exact htouched
      exact hreported.trans_still (c.keeps_showOn _ target)
  · exact .refl _

/-! ## §8. Ways to cast. -/

/-- **The ways to cast a combat:** on a creature or at a place with the change that the combat works
    out itself, and each kind of impact on its own. -/
inductive Entry
  | onCreature (target : CreatureId)
  | atPlace (target : Position)
  | healthOn (target : CreatureId) (bounds : Span)
  | manaOn (target : CreatureId) (bounds : Span)
  | conditionsOn (target : CreatureId)
  | dispelOn (target : CreatureId)
  | plainOn (target : CreatureId)
  | impactAt (target : Position) (impact : Impact)

/-- Casts a combat in one of the ways. -/
def enter (s : Scene) : Entry → Scene
  | .onCreature target => c.onCreature s target
  | .atPlace target => c.atPlace s target
  | .healthOn target bounds => c.onHealth s target bounds
  | .manaOn target bounds => c.onMana s target bounds
  | .conditionsOn target => c.onConditions s target
  | .dispelOn target => c.onDispel s target
  | .plainOn target => c.onPlain s target
  | .impactAt target impact => c.onPlace s target impact

namespace Entry

/-- The places whose tiles may get an item. -/
def places (c : Cast) (w : World) : Entry → List Position
  | .onCreature target =>
    if c.settings.damageType = .none then ((w.creature? target).map Creature.position).toList else []
  | .plainOn target => ((w.creature? target).map Creature.position).toList
  | .atPlace target | .impactAt target _ => c.actedPlaces w target
  | .healthOn _ _ | .manaOn _ _ | .conditionsOn _ | .dispelOn _ => []

/-- The creatures that may be hurt: the one that the cast is on, or those on acted tiles. -/
def Hurts (c : Cast) (w : World) (id : CreatureId) : Entry → Prop
  | .onCreature target | .healthOn target _ | .manaOn target _ | .conditionsOn target
  | .dispelOn target | .plainOn target => id = target
  | .atPlace target | .impactAt target _ => c.Covers w target id

end Entry

/-- Worlds on one map, of which one keeps the other's creatures. -/
theorem frame_on_map {marked armed : CreatureId → Prop} (h : w.Frame hurt marked armed gain w')
    (map : TileMap) :
    World.Frame hurt marked armed (fun _ => 0) { w with map } { w' with map } where
  rules := h.rules
  catalogue := rfl
  creature := h.creature
  tile _ := .refl _

/-- The places that a cast covers hang on the map, and on where the caster stands. -/
theorem cover_eq {marked armed : CreatureId → Prop} (h : w.Frame hurt marked armed gain w')
    (hmap : w'.map = w.map) (target : Position) :
    c.cover w' target
      = ((c.cover w target).1, { w' with map := (c.cover w target).2.map }) := by
  have hplace : (c.caster? w').map Creature.position = (c.caster? w).map Creature.position :=
    Creature.map_of_fixed (c.caster?_fixed h) Creature.position fun _ => rfl
  have hensure : ∀ p, w'.ensureTile p = { w' with map := w.map.ensureTile p } := by
    intro p
    rw [World.ensureTile, hmap]
  have hsame : w' = { w' with map := w.map } := by rw [← hmap]
  unfold cover
  generalize target.translated 0 0 = here
  rw [hplace, hmap]
  cases c.combat.area with
  | some area =>
    dsimp only
    cases area.cover? (((c.caster? w).map Creature.position).getD target) target w.map with
    | none => exact congrArg (Prod.mk []) hsame
    | some covered => rfl
  | none =>
    cases here with
    | none => exact congrArg (Prod.mk []) hsame
    | some p => exact congrArg (Prod.mk [p]) (hensure p)

/-- On one map, a cast acts on the same places whatever it did to creatures meanwhile. -/
theorem actedPlaces_eq {marked armed : CreatureId → Prop} (h : w.Frame hurt marked armed gain w')
    (hmap : w'.map = w.map) (target : Position) :
    c.actedPlaces w' target = c.actedPlaces w target := by
  obtain ⟨-, -, hworld⟩ := c.cover_spec w target
  unfold actedPlaces
  rw [c.cover_eq h hmap]
  have hacts : ∀ p, c.actsOn { w' with map := (c.cover w target).2.map } p
      = c.actsOn (c.cover w target).2 p := by
    intro p
    rw [hworld]
    exact c.actsOn_eq (frame_on_map h (c.cover w target).2.map) rfl
  exact List.filter_congr fun p _ => hacts p

theorem covers_eq {marked armed : CreatureId → Prop} (h : w.Frame hurt marked armed gain w')
    (hmap : w'.map = w.map) (target : Position) : c.Covers w' target = c.Covers w target := by
  unfold Covers
  rw [c.actedPlaces_eq h hmap]
  simp only [World.tile?, hmap]

/-- Finding out the change leaves the map alone. -/
theorem span_map (s : Scene) (target : Option CreatureId) :
    (c.span s target).2.world.map = s.world.map := by
  rcases c.span_cases s target with hsame | ⟨caster, weapon, -, hworn⟩
  · rw [hsame]
  · rw [hworn]
    rfl

/-- **A cast at a place** is framed by the places that it acts on before the change is found out. -/
theorem keeps_atPlace (s : Scene) (target : Position) :
    c.Keeps (c.Covers s.world target) (fun p => if p ∈ c.actedPlaces s.world target then 1 else 0)
      s.world (c.atPlace s target).world := by
  have hspan : c.Keeps (c.Covers s.world target) (fun _ => 0) s.world
      (c.spanOrZero s none).2.world := c.keeps_span s none
  have hmap : (c.spanOrZero s none).2.world.map = s.world.map := c.span_map s none
  unfold atPlace
  split
  · exact c.keeps_onPlace s target .plain
  · -- the cast covers what it would have covered before the weapon lost its charge
    dsimp only
    have hplace := fun impact => c.keeps_onPlace (c.spanOrZero s none).2 target impact
    rw [c.covers_eq hspan hmap, c.actedPlaces_eq hspan hmap] at hplace
    exact hspan.still_trans (hplace _)

theorem keeps_onCreature {target : CreatureId} (hhurt : hurt target) (s : Scene)
    (hgain : c.settings.damageType = .none → ∀ t, s.world.creature? target = some t →
      1 ≤ gain t.position) :
    c.Keeps hurt gain s.world (c.onCreature s target).world := by
  have hspan : c.Keeps hurt gain s.world (c.spanOrZero s (some target)).2.world :=
    c.keeps_span s (some target)
  unfold onCreature
  split
  · rename_i hnone
    exact c.keeps_onPlain hhurt s (hgain hnone)
  · dsimp only
    split
    · exact hspan.trans_still (c.keeps_onMana hhurt _ _)
    · exact hspan.trans_still (c.keeps_onHealth hhurt _ _)

/-- **The frame of a cast,** whichever way it is cast, in every world. -/
theorem enter_frame (s : Scene) (e : Entry) :
    s.world.Frame (fun id => e.Hurts c s.world id) (c.Marks s.world) (c.Arms s.world)
      (fun p => if p ∈ e.places c s.world then 1 else 0) (c.enter s e).world := by
  have hstands : ∀ target t, s.world.creature? target = some t →
      t.position ∈ ((s.world.creature? target).map Creature.position).toList := by
    intro target t ht
    rw [ht]
    exact List.mem_singleton_self _
  show c.Keeps _ _ s.world _
  cases e with
  | onCreature target =>
    refine c.keeps_onCreature ?_ s fun hnone t ht => ?_
    · exact Eq.refl target
    · have hplaces : (Entry.onCreature target).places c s.world
          = ((s.world.creature? target).map Creature.position).toList := if_pos hnone
      rw [hplaces]
      exact Nat.le_of_eq (if_pos (hstands target t ht)).symm
  | atPlace target => exact c.keeps_atPlace s target
  | healthOn target bounds =>
    refine c.keeps_onHealth ?_ s bounds
    exact Eq.refl target
  | manaOn target bounds =>
    refine c.keeps_onMana ?_ s bounds
    exact Eq.refl target
  | conditionsOn target =>
    refine c.keeps_withBlow ?_ s .conditions
    exact Eq.refl target
  | dispelOn target =>
    refine c.keeps_withBlow ?_ s .dispel
    exact Eq.refl target
  | plainOn target =>
    refine c.keeps_onPlain ?_ s fun t ht => ?_
    · exact Eq.refl target
    · exact Nat.le_of_eq (if_pos (hstands target t ht)).symm
  | impactAt target impact => exact c.keeps_onPlace s target impact

end Cast

end Realm
