/-
  Realm.Item.Catalogue — what all items of one id have in common.

  A catalogue holds the item types of a world, in the order of their ids.  An id that it does not know
  stands for a blank, moveable type.
-/
import Std.Data.ExtTreeMap

namespace Realm

/-! ## §1. Item types. -/

/-- What an item is for. -/
inductive ItemGroup
  | none | ground | container | weapon | ammunition | armor | charges | teleport | magicField
  | writeable | key | splash | fluid | door | depot
deriving Repr, DecidableEq

namespace ItemGroup

def all : List ItemGroup :=
  [none, ground, container, weapon, ammunition, armor, charges, teleport, magicField, writeable, key,
    splash, fluid, door, depot]

def name : ItemGroup → String
  | none => "none"
  | ground => "ground"
  | container => "container"
  | weapon => "weapon"
  | ammunition => "ammunition"
  | armor => "armor"
  | charges => "charges"
  | teleport => "teleport"
  | magicField => "magic_field"
  | writeable => "writeable"
  | key => "key"
  | splash => "splash"
  | fluid => "fluid"
  | door => "door"
  | depot => "depot"

def ofName? (s : String) : Option ItemGroup := all.find? fun g => g.name == s

end ItemGroup

/-- How a weapon is wielded. -/
inductive WeaponType
  | none | sword | club | axe | shield | distance | wand | ammo
deriving Repr, DecidableEq

namespace WeaponType

def all : List WeaponType := [none, sword, club, axe, shield, distance, wand, ammo]

def name : WeaponType → String
  | none => "none"
  | sword => "sword"
  | club => "club"
  | axe => "axe"
  | shield => "shield"
  | distance => "distance"
  | wand => "wand"
  | ammo => "ammo"

def ofName? (s : String) : Option WeaponType := all.find? fun w => w.name == s

end WeaponType

/-- What all items of one id have in common. -/
structure ItemType where
  id : UInt16 := 0
  name : String := ""
  group : ItemGroup := .none
  stackable : Bool := false
  moveable : Bool := true
  charges : UInt32 := 0
  decayTo : Option UInt16 := none
  decayTimeSecs : UInt32 := 0
  stopTime : Bool := false
  blockProjectile : Bool := false
  floorChange : Bool := false
  weaponType : WeaponType := .none
  attack : Int32 := 0
deriving Repr, DecidableEq

namespace ItemType

def isFluidContainer (t : ItemType) : Bool := t.group == .fluid

def isSplash (t : ItemType) : Bool := t.group == .splash

def isTeleport (t : ItemType) : Bool := t.group == .teleport

def hasCharges (t : ItemType) : Bool := t.charges != 0

/-- Whether an item of the type holds a liquid, in a vessel or on the ground. -/
def holdsLiquid (t : ItemType) : Bool := t.isFluidContainer || t.isSplash

/-- The longest decay time, in seconds, whose milliseconds fit a signed word. -/
def maxDecaySecs : Nat := 2147483

/-- The decay time in milliseconds. -/
def decayMillis (t : ItemType) : Int32 :=
  Int32.ofNat (min t.decayTimeSecs.toNat maxDecaySecs * 1000)

end ItemType

/-! ## §2. The catalogue. -/

/-- The item types of a world. -/
structure Catalogue where
  types : Std.ExtTreeMap UInt16 ItemType := {}

namespace Catalogue

/-- The catalogue without types. -/
def empty : Catalogue := {}

def get? (c : Catalogue) (id : UInt16) : Option ItemType := c.types[id]?

/-- The type of an id; a blank one for an id that is not in the catalogue. -/
def typeOf (c : Catalogue) (id : UInt16) : ItemType := (c.get? id).getD {}

/-- Adds a type, unless its id is taken. -/
def insert? (c : Catalogue) (t : ItemType) : Option Catalogue :=
  if c.types.contains t.id then none else some ⟨c.types.insert t.id t⟩

def size (c : Catalogue) : Nat := c.types.size

/-- The types by id. -/
def toList (c : Catalogue) : List ItemType := c.types.toList.map Prod.snd

end Catalogue

end Realm
