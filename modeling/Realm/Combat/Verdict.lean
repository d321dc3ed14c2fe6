/-
  Realm.Combat.Verdict — whether an action is allowed, and what is said when it is not.
-/
namespace Realm

/-- The answer to whether something may be done. -/
inductive Verdict
  | allowed
  | notEnoughRoom
  | notThisPerson
  | notThisCreature
  | targetInProtectionZone
  | attackerInProtectionZone
  | actionInProtectionZone
  | actionInNoPvpZone
  | secureMode
  | upstairsFirst
  | downstairsFirst
deriving Repr, DecidableEq

namespace Verdict

def all : List Verdict :=
  [allowed, notEnoughRoom, notThisPerson, notThisCreature, targetInProtectionZone,
    attackerInProtectionZone, actionInProtectionZone, actionInNoPvpZone, secureMode, upstairsFirst,
    downstairsFirst]

def isAllowed (v : Verdict) : Bool := v = .allowed

/-- What a player is told. -/
def message : Verdict → String
  | allowed => ""
  | notEnoughRoom => "There is not enough room."
  | notThisPerson => "You may not attack this person."
  | notThisCreature => "You may not attack this creature."
  | targetInProtectionZone => "You may not attack a person in a protection zone."
  | attackerInProtectionZone => "You may not attack a person while you are in a protection zone."
  | actionInProtectionZone => "This action is not permitted in a protection zone."
  | actionInNoPvpZone => "This action is not permitted in a non-pvp zone."
  | secureMode => "Turn secure mode off if you really want to attack unmarked players."
  | upstairsFirst => "First go upstairs."
  | downstairsFirst => "First go downstairs."

end Verdict

end Realm
