/-
  Realm.Item.Basic — an item: a type id, a stack count and a bag of attributes.

  What an item's one number means (its subtype) hangs on its type: a liquid, a stack, or charges.
  A single item is stored with count zero.
-/
import Realm.Item.Attribute
import Realm.Item.Catalogue

namespace Realm

/-- An item. -/
structure Item where
  id : UInt16
  count : UInt8
  attributes : Bag
deriving Repr, DecidableEq

namespace Item

/-! ## §1. Counts and subtypes. -/

/-- Stores a stack count; one and none are the same. -/
def setCount (i : Item) (n : UInt8) : Item := { i with count := if n > 1 then n else 0 }

def setAttributes (i : Item) (f : Bag → Bag) : Item := { i with attributes := f i.attributes }

/-- The type of an item. -/
def type (c : Catalogue) (i : Item) : ItemType := c.typeOf i.id

/-- The number that an item's type gives a meaning to. -/
def subtype (c : Catalogue) (i : Item) : UInt16 :=
  let t := i.type c
  if t.holdsLiquid then i.attributes.fluidType
  else if t.stackable then i.count.toUInt16
  else if t.hasCharges then i.attributes.charges
  else i.count.toUInt16

/-- Writes the number that the item's type gives a meaning to. -/
def setSubtype (c : Catalogue) (i : Item) (n : UInt16) : Item :=
  let t := i.type c
  if t.holdsLiquid then i.setAttributes (·.setFluidType n)
  else if t.hasCharges && !t.stackable then i.setAttributes (·.setCharges n)
  else i.setCount n.toUInt8

/-- A single item with the charges of its type. -/
def setDefaultSubtype (c : Catalogue) (i : Item) : Item :=
  let t := i.type c
  let i := i.setCount 1
  if t.hasCharges then
    if t.stackable then i.setCount t.charges.toUInt8
    else i.setAttributes (·.setCharges t.charges.toUInt16)
  else i

/-! ## §2. Making items. -/

/-- The amount an item is made with, as its type understands it. -/
def setAmount (t : ItemType) (i : Item) (amount : UInt16) : Item :=
  if t.holdsLiquid then i.setAttributes (·.setFluidType amount)
  else if t.stackable then
    if amount != 0 then i.setCount amount.toUInt8
    else if t.hasCharges then i.setCount t.charges.toUInt8
    else i
  else if t.hasCharges then
    i.setAttributes (·.setCharges (if amount > 1 then amount else t.charges.toUInt16))
  else i

/-- An item of a type that decays starts with its whole decay time. -/
def setDefaultDuration (t : ItemType) (i : Item) : Item :=
  if t.decayMillis = 0 then i else i.setAttributes (·.setDuration t.decayMillis)

/-- **A new item** of an id; amount zero asks for what is usual. -/
def new (c : Catalogue) (id amount : UInt16) : Item :=
  let t := c.typeOf id
  setDefaultDuration t (setAmount t ⟨id, 0, .empty⟩ amount)

/-! ## §3. Change. -/

/-- **Turns an item into another type.**  The corpse owner is lost; a type that neither decays nor
    keeps time loses the decay attributes; a type that decays gets its own decay time, unless the
    time stood still before and is still known. -/
def setId (c : Catalogue) (i : Item) (id : UInt16) : Item :=
  let stoodStill := (i.type c).stopTime
  let t := c.typeOf id
  let millis := t.decayMillis
  let timeless := millis = 0 && !t.stopTime && t.decayTo.isNone
  let b := i.attributes
  let b := if timeless then (b.remove .decaying).remove .duration else b
  let b := b.remove .corpseOwner
  let b := if 0 < millis && (!stoodStill || !b.has .duration) then
      (b.setDecaying .idle).setDuration millis
    else b
  { i with id := id, attributes := b }

/-- Gives an item its unique id; only the first one sticks. -/
def setUniqueId (i : Item) (n : UInt16) : Item :=
  if i.attributes.uniqueId != 0 then i else i.setAttributes (·.setUniqueId n)

/-- Whether an item decays: its type has a decay target and time, and it is not unique. -/
def canDecay (c : Catalogue) (i : Item) : Bool :=
  i.attributes.uniqueId == 0 && (i.type c).decayTo.isSome && (i.type c).decayTimeSecs != 0

/-- Takes over the attributes of another item, but not its decay. -/
def copyAttributes (i other : Item) : Item :=
  { i with attributes := (other.attributes.remove .decaying).remove .duration }

end Item

end Realm
