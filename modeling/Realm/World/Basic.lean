/-
  Realm.World.Basic — a world: its map, its creatures, its rules, its dice, the fights going on, and
  what happened.

  Every registered creature is meant to stand on the tile of its place; adding, replacing and removing
  creatures keeps the tiles in step.
-/
import Realm.Combat.Rules
import Realm.Creature.Basic
import Realm.Random.Dice
import Realm.TileMap.Basic

namespace Realm

/-! ## §1. Worlds. -/

/-- Something that clients would want to see. -/
inductive Event
  | magicEffect (place : Position) (effect : UInt8) (viewers : Nat)
  | distanceEffect (origin target : Position) (effect : UInt8)
  | healthChanged (attacker : Option CreatureId) (target : CreatureId) (type : DamageType)
      (change : Int32)
  | manaChanged (attacker : Option CreatureId) (target : CreatureId) (change : Int32)
  | hitBlocked (target : CreatureId)
  | itemAdded (place : Position) (itemId : UInt16)
  | decayStarted (place : Position) (itemId : UInt16)
  | inFight (player : CreatureId) (ticks : UInt32) (locked : Bool)
  | died (creature : CreatureId)
deriving Repr, DecidableEq

/-- A world. -/
structure World where
  map : TileMap
  creatures : Std.ExtTreeMap CreatureId Creature := {}
  rules : Rules
  dice : Dice
  /-- Milliseconds that each player's fight goes on. -/
  fights : Std.ExtTreeMap CreatureId UInt32 := {}
  /-- What happened, the last thing first. -/
  events : List Event := []

namespace World

/-- A world with nothing in it. -/
def new (c : Catalogue) (rules : Rules) (seed : UInt64) : World :=
  { map := .empty c, rules, dice := .ofSeed seed }

def catalogue (w : World) : Catalogue := w.map.catalogue

def creature? (w : World) (id : CreatureId) : Option Creature := w.creatures[id]?

def tile? (w : World) (p : Position) : Option Tile := w.map.tile? p

/-- What happened, in order. -/
def history (w : World) : List Event := w.events.reverse

/-- The same world with nothing to tell. -/
def forget (w : World) : World := { w with events := [] }

def emit (w : World) (e : Event) : World := { w with events := e :: w.events }

/-- Changes a creature, when it is registered. -/
def modifyCreature (w : World) (id : CreatureId) (f : Creature → Creature) : World :=
  { w with creatures := w.creatures.modify id f }

def modifyTile (w : World) (p : Position) (f : Tile → Tile) : World :=
  { w with map := w.map.modifyTile p f }

def ensureTile (w : World) (p : Position) : World := { w with map := w.map.ensureTile p }

/-! ## §2. Building. -/

/-- Puts a tile on the map, or gives the one there new flags. -/
def addTile (w : World) (p : Position) (flags : TileFlags) : World :=
  match w.tile? p with
  | some _ => w.modifyTile p fun t => { t with flags }
  | none => { w with map := w.map.setTile p { flags } }

/-- Puts a new item on a place. -/
def placeItem (w : World) (p : Position) (id amount : UInt16) : World :=
  (w.ensureTile p).modifyTile p (·.addItem (.new w.catalogue id amount))

/-- Takes a creature off the tile where it was registered. -/
def leaveTile (w : World) (id : CreatureId) : World :=
  match w.creature? id with
  | some c => w.modifyTile c.position (·.removeCreature id)
  | none => w

/-- **Registers a creature,** in place of one of its name, and puts it on top of its tile. -/
def addCreature (w : World) (c : Creature) : World :=
  let w := (w.leaveTile c.id).ensureTile c.position
  { w with creatures := w.creatures.insert c.id c }.modifyTile c.position (·.addCreature c.id)

/-- **Removes a creature,** its place on a tile, and its fight. -/
def removeCreature (w : World) (id : CreatureId) : World :=
  let w := w.leaveTile id
  match w.creature? id with
  | some _ => { w with creatures := w.creatures.erase id, fights := w.fights.erase id }
  | none => w

/-! ## §3. Looking around. -/

/-- The players around a place, on its floor, within so many columns and rows. -/
def spectators (w : World) (p : Position) (columns rows : Int) : List CreatureId :=
  (w.creatures.toList.filter fun (_, c) =>
    c.isPlayer && c.position.z == p.z && ((p.dx c.position).natAbs : Int) ≤ columns
      && ((p.dy c.position).natAbs : Int) ≤ rows).map Prod.fst

/-- Columns that a client sees on each side. -/
def viewColumns : Int := 8

/-- Rows that a client sees on each side. -/
def viewRows : Int := 6

/-- How many players see a place. -/
def viewers (w : World) (p : Position) : Nat := (w.spectators p viewColumns viewRows).length

/-- The zone that a creature stands in; where there is no tile there is no zone either. -/
def zoneOf (w : World) (c : Creature) : Zone :=
  match w.tile? c.position with
  | some t => t.zone
  | none => .normal

/-- The player that a creature serves. -/
def playerMaster (w : World) (c : Creature) : Option Creature :=
  (c.master.bind w.creature?).filter Creature.isPlayer

/-- The player who answers for a creature: itself, or the one that it serves. -/
def playerInCharge (w : World) (c : Creature) : Option Creature :=
  if c.isPlayer then some c else w.playerMaster c

/-- Milliseconds that a creature's fight goes on. -/
def fightTicks (w : World) (id : CreatureId) : UInt32 := w.fights.getD id 0

end World

end Realm
