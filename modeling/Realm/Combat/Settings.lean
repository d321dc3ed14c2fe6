/-
  Realm.Combat.Settings — what a combat does, set one number at a time.

  Each setting has a key, a name for authors and a title for messages.  A number that means nothing for
  its setting is refused and changes nothing.
-/
import Realm.Condition

namespace Realm

/-! ## §1. The settings. -/

namespace Effect

/-- Shows nothing. -/
def none : UInt8 := 0xFF

/-- A hit that did not get through. -/
def blockedHit : UInt8 := 3

/-- A projectile that depends on the caster's weapon. -/
def byWeapon : UInt8 := 0xFE

def whirlwindSword : UInt8 := 24

def whirlwindAxe : UInt8 := 25

def whirlwindClub : UInt8 := 26

end Effect

/-- What a combat does. -/
structure Settings where
  damageType : DamageType := .none
  impactEffect : UInt8 := Effect.none
  distanceEffect : UInt8 := Effect.none
  blockedByShield : Bool := false
  blockedByArmor : Bool := false
  aggressive : Bool := true
  /-- Whether casting it keeps the caster out of protection zones for a while. -/
  locksProtection : Bool := false
  /-- Whether it takes one creature of a tile: the caster where it stands, else the topmost. -/
  casterOrTopmost : Bool := false
  usesCharges : Bool := false
  hitEffect : UInt8 := Effect.none
  hitTextColor : UInt8 := 0xFF
  conditions : List Condition := []
  dispels : Option ConditionKind := none
  /-- The item left on each tile; zero leaves none. -/
  itemId : UInt16 := 0
deriving Repr, DecidableEq

/-- One setting that takes a number. -/
inductive Param
  | damageType | impactEffect | distanceEffect | blockedByShield | blockedByArmor
  | casterOrTopmost | createItem | aggressive | dispel | useCharges | hitEffect | hitTextColor
  | protectionBlock
deriving Repr, DecidableEq

namespace Param

def all : List Param :=
  [damageType, impactEffect, distanceEffect, blockedByShield, blockedByArmor, casterOrTopmost,
    createItem, aggressive, dispel, useCharges, hitEffect, hitTextColor, protectionBlock]

/-- The key of a setting; keys count from one in the order of the settings. -/
def key (p : Param) : Nat := all.idxOf p + 1

def ofKey? (k : Nat) : Option Param := all.find? fun p => p.key == k

/-- The name that authors use. -/
def name : Param → String
  | damageType => "combat_type"
  | impactEffect => "effect"
  | distanceEffect => "distance_effect"
  | blockedByShield => "blocked_by_shield"
  | blockedByArmor => "blocked_by_armor"
  | casterOrTopmost => "target_caster_or_topmost"
  | createItem => "create_item"
  | aggressive => "aggressive"
  | dispel => "dispel"
  | useCharges => "use_charges"
  | hitEffect => "hit_effect"
  | hitTextColor => "hit_text_color"
  | protectionBlock => "pz_block"

/-- The setting with a name; the kind of damage has a short one too. -/
def ofName? (s : String) : Option Param :=
  if s == "type" then some damageType else all.find? fun p => p.name == s

/-- How messages call a setting. -/
def title : Param → String
  | damageType => "CombatType"
  | impactEffect => "Effect"
  | distanceEffect => "DistanceEffect"
  | blockedByShield => "BlockedByShield"
  | blockedByArmor => "BlockedByArmor"
  | casterOrTopmost => "TargetCasterOrTopMost"
  | createItem => "CreateItem"
  | aggressive => "Aggressive"
  | dispel => "Dispel"
  | useCharges => "UseCharges"
  | hitEffect => "HitEffect"
  | hitTextColor => "HitTextColor"
  | protectionBlock => "PzBlock"

end Param

/-! ## §2. Setting them. -/

namespace Settings

/-- **Sets one setting.**  Kinds are given by their masks, switches by whether the number is zero, and
    of the rest the low bits count. -/
def set? (s : Settings) (p : Param) (n : UInt32) : Option Settings :=
  match p with
  | .damageType => (DamageType.ofMask? n).map fun t => { s with damageType := t }
  | .impactEffect => some { s with impactEffect := n.toUInt8 }
  | .distanceEffect => some { s with distanceEffect := n.toUInt8 }
  | .blockedByShield => some { s with blockedByShield := n != 0 }
  | .blockedByArmor => some { s with blockedByArmor := n != 0 }
  | .casterOrTopmost => some { s with casterOrTopmost := n != 0 }
  | .createItem => some { s with itemId := n.toUInt16 }
  | .aggressive => some { s with aggressive := n != 0 }
  | .dispel =>
    if n = 0 then some { s with dispels := none }
    else (ConditionKind.ofMask? n).map fun k => { s with dispels := some k }
  | .useCharges => some { s with usesCharges := n != 0 }
  | .hitEffect => some { s with hitEffect := n.toUInt8 }
  | .hitTextColor => some { s with hitTextColor := n.toUInt8 }
  | .protectionBlock => some { s with locksProtection := n != 0 }

/-- Sets the setting with a key, when there is one. -/
def setKey? (s : Settings) (key : Nat) (n : UInt32) : Option Settings :=
  (Param.ofKey? key).bind fun p => s.set? p n

end Settings

end Realm
