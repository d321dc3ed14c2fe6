/-
  Realm.Combat.Basic — combats: their settings, the area they cover, and how much they change.
-/
import Realm.Combat.Settings
import Realm.Creature.Basic
import Realm.Footprint.Area

namespace Realm

/-! ## §1. Formulas. -/

/-- What a player's change is computed from. -/
inductive FormulaKind
  | undefined
  | levelMagic
  | skill
  | value
deriving Repr, DecidableEq

namespace FormulaKind

def all : List FormulaKind := [undefined, levelMagic, skill, value]

def name : FormulaKind → String
  | undefined => "undefined"
  | levelMagic => "level_magic"
  | skill => "skill"
  | value => "value"

def ofName? (s : String) : Option FormulaKind := all.find? fun k => k.name == s

end FormulaKind

/-- A formula with its coefficients. -/
structure Formula where
  kind : FormulaKind := .undefined
  minA : Float := 0
  minB : Float := 0
  maxA : Float := 0
  maxB : Float := 0

namespace Formula

/-- The fixed bounds that a formula gives without a caster. -/
def fixed (f : Formula) : Span := ⟨f.minA.toInt32, f.maxA.toInt32⟩

/-- Bounds times a vocation's multiplier. -/
def times (s : Span) (m : Float32) : Span :=
  ⟨(s.min.toFloat32 * m).toInt32, (s.max.toFloat32 * m).toInt32⟩

/-- **By level and magic.**  The vocation bears on changes that heal or hurt at both bounds. -/
def byMagic (f : Formula) (c : Creature) : Span :=
  let base := c.level.toFloat + c.magicLevel.toFloat * 4
  let s : Span := ⟨(base * f.maxA + f.maxB).toInt32, (base * f.minA + f.minB).toInt32⟩
  if 0 < s.max ∧ 0 < s.min ∧ c.vocation.healing != 1 then times s c.vocation.healing
  else if s.max < 0 ∧ s.min < 0 ∧ c.vocation.magic != 1 then times s c.vocation.magic
  else s

/-- By the damage of a weapon, or without one. -/
def bySkill (f : Formula) (damage : Option Int32) : Span :=
  ⟨f.minB.toInt32, match damage with
    | some n => (n.toFloat * f.maxA + f.maxB).toInt32
    | none => f.maxB.toInt32⟩

end Formula

/-! ## §2. Combats. -/

/-- A combat.  It may have a rule of its own for the change that a player makes, which may fail; and it
    may report each tile that it touches and each creature that it was applied to. -/
structure Combat where
  settings : Settings := {}
  area : Option Area := none
  formula : Formula := {}
  playerSpan : Option (Creature → Option Creature → Option Span) := none
  reportsTiles : Bool := false
  reportsTargets : Bool := false

namespace Combat

/-- Adds a condition to those that a combat brings. -/
def addCondition (c : Combat) (d : Condition) : Combat :=
  { c with settings := { c.settings with conditions := c.settings.conditions ++ [d] } }

end Combat

/-! ## §3. Fields. -/

namespace Field

def fire : UInt16 := 1492

def poison : UInt16 := 1496

def energy : UInt16 := 1495

def magicWall : UInt16 := 1497

def wildGrowth : UInt16 := 1499

/-- The walls that players below the level limit do not leave behind, with those that they do. -/
def safeWalls : List (UInt16 × UInt16) := [(wildGrowth, 11096), (magicWall, 11095)]

/-- The fields that must not hurt players, with those that do not. -/
def safeFields : List (UInt16 × UInt16) :=
  [(fire, 1500), (poison, 1503), (energy, 1504)] ++ safeWalls

/-- The item in place of an item, or the item itself. -/
def replaced (pairs : List (UInt16 × UInt16)) (id : UInt16) : UInt16 := (pairs.lookup id).getD id

end Field

end Realm
