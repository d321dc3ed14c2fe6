/-
  Realm.Creature.Vitals — health and mana, and how changes land on them.
-/
import Realm.Damage

namespace Realm

/-- What a creature has left, what it can have at most, and what it resists. -/
structure Vitals where
  health : Int32
  maxHealth : Int32
  mana : Int32
  maxMana : Int32
  resistances : Resistances := {}
deriving Repr, DecidableEq

namespace Vitals

/-- Full vitals. -/
def full (maxHealth maxMana : Int32) : Vitals :=
  { health := maxHealth, maxHealth, mana := maxMana, maxMana }

def isDead (v : Vitals) : Bool := v.health ≤ 0

/-- An amount after a change, between nothing and a limit. -/
def settle (before change limit : Int32) : Int32 :=
  let after := Int32.ofIntClamp (before.toInt + change.toInt)
  max 0 (min after (max limit 0))

/-- The opposite of a change; the lowest number has the highest one for it. -/
def opposite (change : Int32) : Int32 := Int32.ofIntClamp (-change.toInt)

/-- A change of health as resistances leave it; they bear on losses alone. -/
def resisted (v : Vitals) (t : DamageType) (change : Int32) : Int32 :=
  if change < 0 then -v.resistances.apply t (opposite change) else change

/-- **Changes health;** the answer is the change that landed. -/
def changeHealth (v : Vitals) (t : DamageType) (change : Int32) : Int32 × Vitals :=
  let health := settle v.health (v.resisted t change) v.maxHealth
  (health - v.health, { v with health })

/-- **Changes mana;** the answer is the change that landed. -/
def changeMana (v : Vitals) (change : Int32) : Int32 × Vitals :=
  let mana := settle v.mana change v.maxMana
  (mana - v.mana, { v with mana })

end Vitals

end Realm
