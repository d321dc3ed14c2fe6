/-
  Realm.Damage — kinds of damage, and what resistances leave of it.

  A resistance never turns damage into healing: what is left of an amount is never negative.
-/
namespace Realm

/-! ## §1. Kinds of damage. -/

/-- What a change of health is made of. -/
inductive DamageType
  | none | physical | energy | earth | fire | undefined
  | lifeDrain | manaDrain | healing | drown | ice | holy | death
deriving Repr, DecidableEq

namespace DamageType

def all : List DamageType :=
  [none, physical, energy, earth, fire, undefined, lifeDrain, manaDrain, healing, drown, ice, holy,
    death]

def name : DamageType → String
  | none => "none"
  | physical => "physical"
  | energy => "energy"
  | earth => "earth"
  | fire => "fire"
  | undefined => "undefined"
  | lifeDrain => "life_drain"
  | manaDrain => "mana_drain"
  | healing => "healing"
  | drown => "drown"
  | ice => "ice"
  | holy => "holy"
  | death => "death"

def ofName? (s : String) : Option DamageType := all.find? fun t => t.name == s

/-- The slot that a resistance against this kind has; untyped damage has none. -/
def slot : DamageType → Option (Fin 12)
  | none => Option.none
  | physical => some 0
  | energy => some 1
  | earth => some 2
  | fire => some 3
  | undefined => some 4
  | lifeDrain => some 5
  | manaDrain => some 6
  | healing => some 7
  | drown => some 8
  | ice => some 9
  | holy => some 10
  | death => some 11

/-- The bit that stands for this kind; untyped damage is zero. -/
def mask (t : DamageType) : UInt32 :=
  match t.slot with
  | Option.none => 0
  | some i => UInt32.ofNat (1 <<< i.val)

def ofMask? (m : UInt32) : Option DamageType := all.find? fun t => t.mask == m

end DamageType

/-! ## §2. Resistances. -/

/-- Percentages taken off each kind of damage; a negative one adds to it. -/
structure Resistances where
  percents : Vector Int16 12 := Vector.replicate 12 0
deriving Repr, DecidableEq

namespace Resistances

def set (r : Resistances) (t : DamageType) (percent : Int16) : Resistances :=
  match t.slot with
  | none => r
  | some i => { percents := r.percents.set i percent }

/-- The percentage that counts, between all of it off and as much again on top. -/
def percent (r : Resistances) (i : Fin 12) : Int := max (-100) (min 100 r.percents[i].toInt)

/-- **What is left of an amount,** the share taken off rounded toward zero. -/
def apply (r : Resistances) (t : DamageType) (amount : Int32) : Int32 :=
  match t.slot with
  | none => amount
  | some i =>
    let left := amount.toInt - (amount.toInt * r.percent i).tdiv 100
    Int32.ofIntClamp (max 0 left)

end Resistances

end Realm
