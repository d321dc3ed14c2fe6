/-
  Realm.Combat.Rules — what a whole world allows in combat.
-/
namespace Realm

/-- How far players may fight each other. -/
inductive WorldType
  | noPvp
  | pvp
  /-- Only guild enemies may fight, and only in zones for it. -/
  | optionalPvp
  | pvpEnforced
deriving Repr, DecidableEq

namespace WorldType

def all : List WorldType := [noPvp, pvp, optionalPvp, pvpEnforced]

def name : WorldType → String
  | noPvp => "no_pvp"
  | pvp => "pvp"
  | optionalPvp => "optional_pvp"
  | pvpEnforced => "pvp_enforced"

def ofName? (s : String) : Option WorldType := all.find? fun t => t.name == s

/-- The name that reports use. -/
def title : WorldType → String
  | noPvp => "NoPvp"
  | pvp => "Pvp"
  | optionalPvp => "OptionalPvp"
  | pvpEnforced => "PvpEnforced"

end WorldType

/-- The rules of a world.  Damage between players is scaled to a percentage, and to another one where
    the victim has a black skull. -/
structure Rules where
  worldType : WorldType := .pvp
  pvpDamage : Int32 := 50
  pvpDamageAtBlackSkulls : Int32 := 10
  minPvpLevel : UInt32 := 0
  minPvpLevelForSummons : Bool := false
  canPassThrough : Bool := false
  /-- Milliseconds that a fight lasts after the last blow. -/
  fightDuration : UInt32 := 60000
  removesWeaponCharges : Bool := true
deriving Repr, DecidableEq

namespace Rules

def isOptionalPvp (r : Rules) : Bool := r.worldType = .optionalPvp

end Rules

end Realm
