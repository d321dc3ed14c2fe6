/-
  Realm.TileMap.Tile — one place of the map: its zone flags, its items and who stands on it.
-/
import Realm.Creature.Id
import Realm.Item.Basic

namespace Realm

/-! ## §1. Flags and zones. -/

/-- What holds on a tile. -/
structure TileFlags where
  protectionZone : Bool := false
  noPvpZone : Bool := false
  pvpZone : Bool := false
  noLogout : Bool := false
  refresh : Bool := false
deriving Repr, DecidableEq

namespace TileFlags

/-- The flags whose bits are set; bits without a meaning are dropped. -/
def ofBits (n : UInt32) : TileFlags :=
  ⟨n.toNat.testBit 0, n.toNat.testBit 1, n.toNat.testBit 2, n.toNat.testBit 3, n.toNat.testBit 4⟩

/-- One bit per flag. -/
def toBits (f : TileFlags) : UInt32 :=
  UInt32.ofNat (f.protectionZone.toNat + 2 * f.noPvpZone.toNat + 4 * f.pvpZone.toNat
    + 8 * f.noLogout.toNat + 16 * f.refresh.toNat)

end TileFlags

/-- The kind of ground a creature stands on. -/
inductive Zone
  | protection
  | noPvp
  | pvp
  | normal
deriving Repr, DecidableEq

/-! ## §2. Tiles. -/

/-- A tile.  A static one only stands in for a place that the map does not know, and is never saved. -/
structure Tile where
  flags : TileFlags := {}
  items : List Item := []
  /-- Who stands here, topmost first. -/
  creatures : List CreatureId := []
  isStatic : Bool := false
deriving Repr, DecidableEq

namespace Tile

/-- Stands in for a place that the map does not know. -/
def placeholder : Tile := { isStatic := true }

/-- The zone of a tile; protection goes before no-pvp, and that before pvp. -/
def zone (t : Tile) : Zone :=
  if t.flags.protectionZone then .protection
  else if t.flags.noPvpZone then .noPvp
  else if t.flags.pvpZone then .pvp
  else .normal

def anyItem (t : Tile) (c : Catalogue) (p : ItemType → Bool) : Bool :=
  t.items.any fun i => p (i.type c)

def blocksProjectile (t : Tile) (c : Catalogue) : Bool := t.anyItem c ItemType.blockProjectile

def hasFloorChange (t : Tile) (c : Catalogue) : Bool := t.anyItem c ItemType.floorChange

def hasTeleport (t : Tile) (c : Catalogue) : Bool := t.anyItem c ItemType.isTeleport

def topCreature (t : Tile) : Option CreatureId := t.creatures.head?

/-- Takes a creature off a tile. -/
def removeCreature (t : Tile) (id : CreatureId) : Tile :=
  { t with creatures := t.creatures.filter (· ≠ id) }

/-- Puts a creature on top of a tile. -/
def addCreature (t : Tile) (id : CreatureId) : Tile :=
  { t with creatures := id :: t.creatures.filter (· ≠ id) }

def addItem (t : Tile) (i : Item) : Tile := { t with items := t.items ++ [i] }

end Tile

end Realm
