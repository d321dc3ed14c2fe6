/-
  Realm.Combat.Cast — casting a combat on a creature or on a place.

  A cast changes a world and leaves acts: whom its effect was applied to, what it asked, and what it
  reported.  A combat on a place resolves tile by tile, and on each tile creature by creature.
-/
import Realm.Combat.Basic
import Realm.World.Change
import Realm.World.Fight

namespace Realm

/-! ## §1. Scenes. -/

/-- What a cast did, besides what it did to the world. -/
inductive Act
  /-- A combat was asked for the change that a player makes. -/
  | asked (caster : CreatureId) (target : Option CreatureId)
  /-- The effect was applied to a creature. -/
  | applied (target : CreatureId)
  /-- A tile was reported. -/
  | tile (caster : Option CreatureId) (place : Position)
  /-- A creature was reported, with the health it has. -/
  | target (caster : Option CreatureId) (target : CreatureId) (health : Int32)
deriving Repr, DecidableEq

/-- A world and the acts so far, the last one first. -/
structure Scene where
  world : World
  acts : List Act := []

namespace Scene

def act (s : Scene) (a : Act) : Scene := { s with acts := a :: s.acts }

/-- Changes the world of a scene. -/
def change (s : Scene) (f : World → World) : Scene := { s with world := f s.world }

end Scene

/-- What is done to each creature. -/
inductive Impact
  | health (span : Span)
  | mana (span : Span)
  | conditions
  | dispel
  | plain
deriving Repr, DecidableEq

/-- Whether a creature reached by an impact on a place counts as attacked. -/
def Impact.countsAsAttack : Impact → Bool
  | conditions | dispel => true
  | health _ | mana _ | plain => false

/-- A combat in someone's hands, or in nobody's. -/
structure Cast where
  combat : Combat
  caster : Option CreatureId

namespace Cast

def settings (c : Cast) : Settings := c.combat.settings

/-- The caster, if it is registered. -/
def caster? (c : Cast) (w : World) : Option Creature := c.caster.bind w.creature?

/-! ## §2. How much. -/

/-- A weapon with one charge less, if it has any. -/
def worn (w : World) (weapon : Item) : Item :=
  let charges := weapon.attributes.charges
  weapon.setSubtype w.catalogue (if charges = 0 then 0 else charges - 1)

/-- Whether a weapon loses a charge to this combat. -/
def wears (c : Cast) (w : World) (weapon : Item) : Bool :=
  c.settings.usesCharges && (weapon.type w.catalogue).hasCharges && w.rules.removesWeaponCharges

/-- **By formula:** the bounds for a player, and the world with the charge that the weapon lost. -/
def formulaSpan (c : Cast) (w : World) (player : Creature) : Option Span × World :=
  let f := c.combat.formula
  match f.kind with
  | .undefined => (none, w)
  | .value => (some f.fixed, w)
  | .levelMagic => (some (f.byMagic player), w)
  | .skill =>
    match player.weapon with
    | none => (some (f.bySkill none), w)
    | some weapon =>
      (some (f.bySkill (some (w.weaponDamage player weapon))),
        if c.wears w weapon then
          w.modifyCreature player.id fun p => { p with weapon := some (worn w weapon) }
        else w)

/-- The bounds that the combat's own rule gives for a player. -/
def ownSpan (c : Cast) (w : World) (player : Creature) (target : Option CreatureId) : Option Span :=
  c.combat.playerSpan.bind fun rule => rule player (target.bind w.creature?)

/-- **How much a cast changes.**  What the caster brings goes first, then for a player the combat's own
    rule and its formula, and for others fixed bounds. -/
def span (c : Cast) (s : Scene) (target : Option CreatureId) : Option Span × Scene :=
  let fixed := if c.combat.formula.kind = .value then some c.combat.formula.fixed else none
  match c.caster? s.world with
  | none => (fixed, s)
  | some creature =>
    if creature.span.isSome then (creature.span, s)
    else if creature.isPlayer then
      let asked := if c.combat.playerSpan.isSome
        then s.act (.asked creature.id ((target.bind s.world.creature?).map Creature.id)) else s
      match c.ownSpan s.world creature target with
      | some bounds => (some bounds, asked)
      | none =>
        let (bounds, w) := c.formulaSpan s.world creature
        (bounds, { asked with world := w })
    else (fixed, s)

/-- Bounds, or no change at all. -/
def spanOrZero (c : Cast) (s : Scene) (target : Option CreatureId) : Span × Scene :=
  let (bounds, s) := c.span s target
  (bounds.getD ⟨0, 0⟩, s)

/-! ## §3. Applying. -/

/-- A combat's condition as its caster brings it. -/
def ownedBy (caster : Option CreatureId) (d : Condition) : Condition :=
  { d with owner := caster.or d.owner }

/-- **Adds the combat's conditions** to a creature that is not immune to them. -/
def addConditions (c : Cast) (w : World) (target : CreatureId) : World :=
  w.modifyCreature target fun t =>
    c.settings.conditions.foldl (fun t d =>
      if c.caster = some target ∨ !t.isImmune d.kind then t.addCondition (ownedBy c.caster d) else t) t

/-- Takes away the condition that the combat dispels. -/
def dispel (c : Cast) (w : World) (target : CreatureId) : World :=
  match c.settings.dispels with
  | none => w
  | some kind => w.modifyCreature target (·.removeCondition kind)

/-- A change as it is between the caster and a creature. -/
def adjusted (c : Cast) (w : World) (target : CreatureId) (change : Int32) : Int32 :=
  match w.creature? target with
  | none => change
  | some t => w.rules.betweenPlayers (c.caster? w) t change

/-- What follows on a change that was made. -/
def afterChange (c : Cast) (target : CreatureId) (changed : Bool × World) : World :=
  if changed.1 then c.dispel (c.addConditions changed.2 target) target else changed.2

def applyHealth (c : Cast) (w : World) (target : CreatureId) (bounds : Span) : World :=
  let (change, w) := w.roll bounds.min bounds.max
  let (hit, w) := w.blockHit target c.settings.damageType change
  if hit.blocked then w
  else c.afterChange target
    (w.changeHealth c.caster target c.settings.damageType (c.adjusted w target hit.change))

def applyMana (c : Cast) (w : World) (target : CreatureId) (bounds : Span) : World :=
  let (change, w) := w.roll bounds.min bounds.max
  c.afterChange target (w.changeMana c.caster target (c.adjusted w target change))

/-- A blow of an aggressive combat against another creature. -/
def blow (c : Cast) (w : World) (target : CreatureId) : World :=
  match c.caster with
  | none => w
  | some caster =>
    if c.settings.aggressive ∧ caster ≠ target then (w.attackedCreature caster target).attacked target
    else w

/-- Does an impact to a creature. -/
def impactOn (c : Cast) (w : World) (target : CreatureId) : Impact → World
  | .health bounds => c.applyHealth w target bounds
  | .mana bounds => c.applyMana w target bounds
  | .conditions => c.addConditions w target
  | .dispel => c.dispel w target
  | .plain => c.blow (c.dispel (c.addConditions w target) target) target

/-- **Applies an impact** to a creature. -/
def apply (c : Cast) (s : Scene) (target : CreatureId) (impact : Impact) : Scene :=
  (s.change fun w => c.impactOn w target impact).act (.applied target)

/-- Whether a combat may be applied to a creature: an aggressive one not to its caster, and only where
    an attack is allowed. -/
def mayAffect (c : Cast) (w : World) (target : CreatureId) : Bool :=
  !c.settings.aggressive || (c.caster ≠ some target
    && (w.creature? target).any fun t => (w.verdictOnAttack (c.caster? w) t).isAllowed)

/-! ## §4. Showing and reporting. -/

/-- Reports a creature that the effect was applied to. -/
def report (c : Cast) (s : Scene) (target : CreatureId) : Scene :=
  match c.combat.reportsTargets, s.world.creature? target with
  | true, some t => s.act (.target ((c.caster? s.world).map Creature.id) t.id t.vitals.health)
  | _, _ => s

/-- Shows a combat's effect on a place, if it has one. -/
def showImpact (c : Cast) (w : World) (viewers : Nat) (p : Position) : World :=
  if c.settings.impactEffect = Effect.none then w else w.showEffect viewers p c.settings.impactEffect

/-- The projectile of a weapon. -/
def projectile (w : World) (weapon : Option Item) : UInt8 :=
  match weapon with
  | none => Effect.none
  | some i =>
    match (i.type w.catalogue).weaponType with
    | .axe => Effect.whirlwindAxe
    | .sword => Effect.whirlwindSword
    | .club => Effect.whirlwindClub
    | _ => Effect.none

/-- Shows the combat's projectile on its way from the caster, if it has one. -/
def shoot (c : Cast) (w : World) (target : Position) : World :=
  match c.caster? w with
  | none => w
  | some caster =>
    let effect := if c.settings.distanceEffect = Effect.byWeapon then projectile w caster.weapon
      else c.settings.distanceEffect
    if effect = Effect.none then w else w.emit (.distanceEffect caster.position target effect)

/-- Shows a combat on a creature where it stands. -/
def showOn (c : Cast) (w : World) (target : CreatureId) : World :=
  match w.creature? target with
  | none => w
  | some t => c.shoot (c.showImpact w (w.viewers t.position) t.position) t.position

/-! ## §5. Tiles. -/

/-- The item that a cast leaves on a place: a safe one where players must not hurt each other. -/
def fieldItem (c : Cast) (w : World) (p : Position) : UInt16 :=
  let id := c.settings.itemId
  match (c.caster? w).bind w.playerInCharge with
  | none => id
  | some player =>
    let r := w.rules
    let id := if player.level < r.minPvpLevel ∧ r.canPassThrough then
      Field.replaced Field.safeWalls id else id
    if r.isOptionalPvp || w.isNoPvp p then Field.replaced Field.safeFields id else id

/-- Lays the combat's item on a place, and starts its decay. -/
def layField (c : Cast) (w : World) (p : Position) : World :=
  if c.settings.itemId = 0 then w
  else
    let id := c.fieldItem w p
    let item := Item.new w.catalogue id 0
    let item := match c.caster with
      | some caster => item.setAttributes (·.setOwner caster.val)
      | none => item
    let (laid, w) := w.layItem p item
    if laid then w.startDecay p id else w

/-- **What a tile gets:** the combat's item, a report, and the effect shown to so many. -/
def touchTile (c : Cast) (s : Scene) (viewers : Nat) (p : Position) : Scene :=
  let s := s.change fun w => c.layField w p
  let s := if c.combat.reportsTiles then s.act (.tile ((c.caster? s.world).map Creature.id) p) else s
  s.change fun w => c.showImpact w viewers p

/-- The creatures of a tile that a combat takes. -/
def takenFrom (c : Cast) (w : World) (p : Position) (t : Tile) : List CreatureId :=
  if c.settings.casterOrTopmost then
    match c.caster, c.caster? w with
    | some id, some caster =>
      if caster.position = p then (t.creatures.find? (· = id)).toList else t.topCreature.toList
    | _, _ => t.topCreature.toList
  else t.creatures

/-- One creature of a tile. -/
def strike (c : Cast) (impact : Impact) (s : Scene) (target : CreatureId) : Scene :=
  if c.mayAffect s.world target then
    let s := c.report (c.apply s target impact) target
    if impact.countsAsAttack then s.change fun w => c.blow w target else s
  else s

/-- One tile. -/
def resolveTile (c : Cast) (impact : Impact) (viewers : Nat) (s : Scene) (p : Position) : Scene :=
  match s.world.tile? p with
  | none => s
  | some t =>
    if (s.world.verdictOnTile (c.caster? s.world) p t c.settings.aggressive).isAllowed then
      c.touchTile ((c.takenFrom s.world p t).foldl (c.strike impact) s) viewers p
    else s

/-- **The places that a cast covers,** and the world with a tile on each of them. -/
def cover (c : Cast) (w : World) (target : Position) : List Position × World :=
  match c.combat.area with
  | some area =>
    let origin := ((c.caster? w).map Creature.position).getD target
    match area.cover? origin target w.map with
    | some (places, map) => (places, { w with map })
    | none => ([], w)
  | none =>
    match target.translated 0 0 with
    | some p => ([p], w.ensureTile p)
    | none => ([], w)

/-- How far a list of places reaches from one of them, by columns and by rows. -/
def reach (p : Position) (places : List Position) : Nat × Nat :=
  places.foldl (fun r q => (max r.1 (p.dx q).natAbs, max r.2 (p.dy q).natAbs)) (0, 0)

/-- What follows on a cast on a place: its projectile, and a fight for the caster's player. -/
def afterTiles (c : Cast) (w : World) (target : Position) : World :=
  let w := c.shoot w target
  match (c.caster? w).bind w.playerInCharge with
  | some player =>
    if c.settings.aggressive && !player.has (·.gainsNoFights) then
      w.extendFight player.id w.rules.fightDuration c.settings.locksProtection
    else w
  | none => w

/-- **Casts an impact on a place.** -/
def onPlace (c : Cast) (s : Scene) (target : Position) (impact : Impact) : Scene :=
  let (places, world) := c.cover s.world target
  let s := { s with world }
  let (columns, rows) := reach target places
  let viewers := (world.spectators target (columns + World.viewColumns)
    (rows + World.viewRows)).length
  (places.foldl (c.resolveTile impact viewers) s).change fun w => c.afterTiles w target

/-! ## §6. Creatures. -/

/-- Health of one creature.  It is not reported. -/
def onHealth (c : Cast) (s : Scene) (target : CreatureId) (bounds : Span) : Scene :=
  if c.mayAffect s.world target then
    (c.apply s target (.health bounds)).change fun w => c.showOn w target
  else s

/-- Mana of one creature. -/
def onMana (c : Cast) (s : Scene) (target : CreatureId) (bounds : Span) : Scene :=
  if c.mayAffect s.world target then
    (c.report (c.apply s target (.mana bounds)) target).change fun w => c.showOn w target
  else s

/-- An impact on one creature that counts as a blow. -/
def withBlow (c : Cast) (s : Scene) (target : CreatureId) (impact : Impact) : Scene :=
  if c.mayAffect s.world target then
    (c.report (c.apply s target impact) target).change fun w => c.blow (c.showOn w target) target
  else s

/-- Conditions for one creature. -/
def onConditions (c : Cast) (s : Scene) (target : CreatureId) : Scene := c.withBlow s target .conditions

/-- One creature rid of a condition. -/
def onDispel (c : Cast) (s : Scene) (target : CreatureId) : Scene := c.withBlow s target .dispel

/-- All that a combat without damage does to one creature, and to its tile. -/
def onPlain (c : Cast) (s : Scene) (target : CreatureId) : Scene :=
  if c.mayAffect s.world target then
    match s.world.creature? target with
    | none => s
    | some t =>
      let viewers := s.world.viewers t.position
      let s := c.touchTile (c.apply s target .plain) viewers t.position
      (c.report s target).change fun w => c.showOn w target
  else s

/-! ## §7. Whole casts. -/

/-- **Casts a combat on a creature.** -/
def onCreature (c : Cast) (s : Scene) (target : CreatureId) : Scene :=
  match c.settings.damageType with
  | .none => c.onPlain s target
  | kind =>
    let (bounds, s) := c.spanOrZero s (some target)
    if kind = .manaDrain then c.onMana s target bounds else c.onHealth s target bounds

/-- **Casts a combat at a place.** -/
def atPlace (c : Cast) (s : Scene) (target : Position) : Scene :=
  match c.settings.damageType with
  | .none => c.onPlace s target .plain
  | kind =>
    let (bounds, s) := c.spanOrZero s none
    c.onPlace s target (if kind = .manaDrain then .mana bounds else .health bounds)

end Cast

end Realm
