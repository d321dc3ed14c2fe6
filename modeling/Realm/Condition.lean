/-
  Realm.Condition — conditions that a creature carries for a time, and that may hurt it meanwhile.

  A condition counts the time since its last full interval, so cutting a stretch of time into pieces
  does not change what it costs.
-/
import Realm.Creature.Id
import Realm.Damage

namespace Realm

/-! ## §1. Kinds. -/

/-- The kinds of conditions. -/
inductive ConditionKind
  | poison | fire | energy | haste | paralyze | outfit | invisible | light | manaShield
  | inFight | drunk | regeneration | soul | drown | freezing | dazzled | cursed
deriving Repr, DecidableEq

namespace ConditionKind

def all : List ConditionKind :=
  [poison, fire, energy, haste, paralyze, outfit, invisible, light, manaShield, inFight, drunk,
    regeneration, soul, drown, freezing, dazzled, cursed]

def name : ConditionKind → String
  | poison => "poison"
  | fire => "fire"
  | energy => "energy"
  | haste => "haste"
  | paralyze => "paralyze"
  | outfit => "outfit"
  | invisible => "invisible"
  | light => "light"
  | manaShield => "mana_shield"
  | inFight => "in_fight"
  | drunk => "drunk"
  | regeneration => "regeneration"
  | soul => "soul"
  | drown => "drown"
  | freezing => "freezing"
  | dazzled => "dazzled"
  | cursed => "cursed"

def ofName? (s : String) : Option ConditionKind := all.find? fun k => k.name == s

/-- The place of the bit that stands for this kind; the gaps are not used. -/
def bit : ConditionKind → Nat
  | poison => 0
  | fire => 1
  | energy => 2
  | haste => 3
  | paralyze => 4
  | outfit => 5
  | invisible => 6
  | light => 7
  | manaShield => 8
  | inFight => 9
  | drunk => 10
  | regeneration => 12
  | soul => 13
  | drown => 14
  | freezing => 17
  | dazzled => 18
  | cursed => 19

def mask (k : ConditionKind) : UInt32 := UInt32.ofNat (1 <<< k.bit)

def ofMask? (m : UInt32) : Option ConditionKind := all.find? fun k => k.mask == m

/-- The kind of damage that a condition does, for those that do damage. -/
def damageType : ConditionKind → Option DamageType
  | fire => some .fire
  | energy => some .energy
  | drown => some .drown
  | poison => some .earth
  | freezing => some .ice
  | dazzled => some .holy
  | cursed => some .death
  | _ => none

/-- The condition that goes with a kind of damage. -/
def ofDamageType? : DamageType → Option ConditionKind
  | .fire => some fire
  | .energy => some energy
  | .drown => some drown
  | .earth => some poison
  | .ice => some freezing
  | .holy => some dazzled
  | .death => some cursed
  | _ => none

end ConditionKind

/-! ## §2. Conditions. -/

/-- A condition: the milliseconds it has left (negative for one without an end), the health it gives
    or takes at each interval, who is to blame, and the time since the last full interval. -/
structure Condition where
  kind : ConditionKind
  ticks : Int32
  tickDamage : Int32 := 0
  interval : UInt32 := 2000
  owner : Option CreatureId := none
  elapsed : UInt32 := 0
deriving Repr, DecidableEq

namespace Condition

/-- A condition that does no damage. -/
def new (kind : ConditionKind) (ticks : Int32) : Condition := { kind, ticks }

/-- The same with damage at each interval, which is a millisecond at least. -/
def withDamage (c : Condition) (tickDamage : Int32) (interval : UInt32) : Condition :=
  { c with tickDamage, interval := max interval 1 }

def isExpired (c : Condition) : Bool := c.ticks == 0

/-- The part of a stretch of time that a condition lasts. -/
def usable (c : Condition) (time : UInt32) : UInt32 :=
  if c.ticks < 0 then time else min time c.ticks.toUInt32

/-- Time counted towards intervals: what is left over and the new stretch, at most a full word. -/
def counted (c : Condition) (time : UInt32) : Nat :=
  min (c.elapsed.toNat + (c.usable time).toNat) (UInt32.size - 1)

/-- Milliseconds in an interval, one at least. -/
def period (c : Condition) : Nat := max c.interval.toNat 1

/-- Damage for a number of intervals, kept within a word; the number is read as a signed word. -/
def damageFor (c : Condition) (intervals : Nat) : Int32 :=
  Int32.ofIntClamp (c.tickDamage.toInt * (UInt32.ofNat intervals).toInt32.toInt)

/-- **Time passes:** the health change of the intervals completed, and the condition afterwards. -/
def advance (c : Condition) (time : UInt32) : Int32 × Condition :=
  if c.isExpired then (0, c)
  else
    let total := c.counted time
    let ticks := if c.ticks < 0 then c.ticks else c.ticks - (c.usable time).toInt32
    (c.damageFor (total / c.period), { c with ticks, elapsed := UInt32.ofNat (total % c.period) })

/-- Whether a lifetime outlasts another. -/
def outlasts (c d : Condition) : Bool := 0 ≤ d.ticks && (c.ticks < 0 || d.ticks < c.ticks)

/-- How strong the damage is.  The lowest word has no opposite, so its absolute value wraps around to
    itself, and it counts as weaker than all others; where overflow is checked for, it cannot be compared
    at all. -/
def strength (c : Condition) : Int32 := c.tickDamage.abs

/-- **Refreshes** a condition with another of its kind: the longer lifetime, the stronger damage, the
    shorter interval, and the newer one to blame when there is one. -/
def merge (c d : Condition) : Condition :=
  if c.kind = d.kind then
    { c with
      ticks := if d.outlasts c then d.ticks else c.ticks
      tickDamage := if c.strength < d.strength then d.tickDamage else c.tickDamage
      interval := min c.interval (max d.interval 1)
      owner := d.owner.or c.owner }
  else c

end Condition

end Realm
