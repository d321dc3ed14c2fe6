/-
  Realm.World.Change — health, mana, items and effects: what happens to a world one thing at a time.
-/
import Realm.Combat.Settings
import Realm.World.Basic

namespace Realm.World

/-! ## §1. Chance and sight. -/

/-- Throws the world's dice. -/
def roll (w : World) (min max : Int32) : Int32 × World :=
  let (n, dice) := w.dice.roll min max
  (n, { w with dice })

/-- Shows an effect on a place. -/
def showEffect (w : World) (viewers : Nat) (p : Position) (effect : UInt8) : World :=
  w.emit (.magicEffect p effect viewers)

/-! ## §2. Hits. -/

/-- A hit after the defence: whether it was blocked, and the change it makes. -/
structure Hit where
  blocked : Bool
  change : Int32
deriving Repr, DecidableEq

/-- Whether resistances leave nothing of a loss. -/
def absorbs (v : Vitals) (t : DamageType) (change : Int32) : Bool :=
  v.resistances.apply t (Vitals.opposite change) = 0

/-- **The defence.**  A loss that resistances leave nothing of is blocked, and so is one of a creature
    that is not registered. -/
def blockHit (w : World) (target : CreatureId) (t : DamageType) (change : Int32) : Hit × World :=
  if 0 ≤ change then (⟨false, change⟩, w)
  else
    match w.creature? target with
    | none => (⟨true, change⟩, w)
    | some c =>
      if absorbs c.vitals t change then
        (⟨true, 0⟩, (w.emit (.hitBlocked target)).showEffect (w.viewers c.position) c.position
          Effect.blockedHit)
      else (⟨false, change⟩, w)

/-- **Changes the health of a living creature,** and tells of its death. -/
def changeHealth (w : World) (attacker : Option CreatureId) (target : CreatureId) (t : DamageType)
    (change : Int32) : Bool × World :=
  match w.creature? target with
  | none => (false, w)
  | some c =>
    if c.vitals.isDead then (false, w)
    else
      let (applied, vitals) := c.vitals.changeHealth t change
      let w := (w.modifyCreature target fun c => { c with vitals }).emit
        (.healthChanged attacker target t applied)
      (true, if vitals.isDead then w.emit (.died target) else w)

/-- **Changes the mana of a living creature.** -/
def changeMana (w : World) (attacker : Option CreatureId) (target : CreatureId) (change : Int32) :
    Bool × World :=
  match w.creature? target with
  | none => (false, w)
  | some c =>
    if c.vitals.isDead then (false, w)
    else
      let (applied, vitals) := c.vitals.changeMana change
      (true, (w.modifyCreature target fun c => { c with vitals }).emit
        (.manaChanged attacker target applied))

/-! ## §3. Items. -/

/-- Lays an item on a tile, when there is one. -/
def layItem (w : World) (p : Position) (i : Item) : Bool × World :=
  match w.tile? p with
  | none => (false, w)
  | some _ => (true, (w.modifyTile p (·.addItem i)).emit (.itemAdded p i.id))

/-- Changes the first element with a property, when there is one. -/
def modifyFirst? {α : Type} (p : α → Bool) (f : α → α) : List α → Option (List α)
  | [] => none
  | a :: rest => if p a then some (f a :: rest) else (modifyFirst? p f rest).map (a :: ·)

/-- Changes the last element with a property, when there is one. -/
def modifyLast? {α : Type} (p : α → Bool) (f : α → α) (xs : List α) : Option (List α) :=
  (modifyFirst? p f xs.reverse).map List.reverse

/-- **Starts the decay** of the last item of an id on a tile that can decay. -/
def startDecay (w : World) (p : Position) (id : UInt16) : World :=
  let decaying := (w.tile? p).bind fun t =>
    modifyLast? (fun i => i.id == id && i.canDecay w.catalogue)
      (·.setAttributes (·.setDecaying .pending)) t.items
  match decaying with
  | none => w
  | some items => (w.modifyTile p fun t => { t with items }).emit (.decayStarted p id)

/-- The most damage that a weapon does in a creature's hands. -/
def weaponDamage (w : World) (c : Creature) (weapon : Item) : Int32 :=
  let attack := (max 0 (weapon.type w.catalogue).attack).toFloat
  let skill := c.meleeSkill.toFloat
  (skill * attack * 0.05 + attack * 0.5).ceil.toInt32

end Realm.World
