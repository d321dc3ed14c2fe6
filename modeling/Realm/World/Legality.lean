/-
  Realm.World.Legality — who may attack whom, and where.
-/
import Realm.Combat.Verdict
import Realm.World.Basic

namespace Realm.World

/-! ## §1. Places. -/

/-- Whether both stand in zones where players may fight. -/
def bothInPvpZone (w : World) (c d : Creature) : Bool := w.zoneOf c = .pvp && w.zoneOf d = .pvp

/-- Whether a combat may reach a tile at a place.  A caster cannot reach other floors, and one that
    ignores protection is not bound by it. -/
def verdictOnTile (w : World) (caster : Option Creature) (p : Position) (t : Tile)
    (aggressive : Bool) : Verdict :=
  let protection : Verdict :=
    if aggressive && t.flags.protectionZone then .actionInProtectionZone else .allowed
  if t.blocksProjectile w.catalogue || t.hasFloorChange w.catalogue || t.hasTeleport w.catalogue then
    .notEnoughRoom
  else
    match caster with
    | none => protection
    | some c =>
      if c.position.z < p.z then .downstairsFirst
      else if p.z < c.position.z then .upstairsFirst
      else if c.has (·.ignoresProtection) then .allowed
      else protection

/-! ## §2. Attacks. -/

/-- How an attack on a creature is refused. -/
def refusal (target : Creature) : Verdict :=
  if target.isPlayer then .notThisPerson else .notThisCreature

/-- Whether the level of one of two players rules a fight out; of a walk, whether only the one walked
    through is below. -/
def belowLevel (r : Rules) (attacker target : Creature) (walk : Bool) : Bool :=
  if walk then r.minPvpLevel ≤ attacker.level && target.level < r.minPvpLevel
  else attacker.level < r.minPvpLevel || target.level < r.minPvpLevel

/-- The player whom an attack on a creature is held to be against. -/
def targetPlayer (w : World) (target : Creature) : Option Creature :=
  if w.rules.minPvpLevelForSummons then w.playerInCharge target
  else if target.isPlayer then some target
  else none

/-- Whether the rules of the world keep two players apart; a walk asks whether one may walk through
    the other instead. -/
def keptApart (w : World) (attacker target attackerPlayer targetPlayer : Creature) (walk : Bool) :
    Bool :=
  if w.rules.isOptionalPvp then
    !targetPlayer.isGuildEnemy attackerPlayer || (!walk && !w.bothInPvpZone attacker target)
      || (walk && !w.rules.canPassThrough)
  else
    (!walk || w.rules.canPassThrough) && belowLevel w.rules attackerPlayer targetPlayer walk

/-- **Between players:** what the world and its level limit allow. -/
def verdictBetweenPlayers (w : World) (attacker target : Creature) (walk : Bool) : Verdict :=
  match w.targetPlayer target, w.playerInCharge attacker with
  | some t, some a => if w.keptApart attacker target a t walk then refusal target else .allowed
  | _, _ => .allowed

/-- Whether a player with a black skull is kept from attacking another. -/
def barredByBlackSkull (attacker target : Creature) : Bool :=
  attacker.skull = .black && !attacker.isGuildEnemy target && !attacker.isPartner target
    && !attacker.isWarPartner target && target.skull = .none && !target.hasAttacked attacker

/-- Whether flags, locks or skulls keep an attacker from a target. -/
def barred (w : World) (attacker target : Creature) : Bool :=
  if target.isPlayer then
    target.has (·.cannotBeAttacked)
      || (attacker.isPlayer && (attacker.has (·.cannotAttackPlayers)
        || attacker.isLockedAgainst target || barredByBlackSkull attacker target))
      || (w.playerMaster attacker).any (·.has (·.cannotAttackPlayers))
  else target.isMonster && attacker.has (·.cannotAttackMonsters)

/-- Whether a place lies where players must not be attacked. -/
def isNoPvp (w : World) (p : Position) : Bool := (w.tile? p).any (·.flags.noPvpZone)

/-- **Whether an attacker may hurt a target;** what has no attacker is always allowed. -/
def verdictOnAttack (w : World) (attacker : Option Creature) (target : Creature) : Verdict :=
  match attacker with
  | none => .allowed
  | some a =>
    if w.barred a target then refusal target
    else if a.isPlayer || (w.playerMaster a).isSome then
      if target.isPlayer && w.isNoPvp target.position then .actionInNoPvpZone
      else w.verdictBetweenPlayers a target false
    else .allowed

/-! ## §3. Targets of a player. -/

/-- What zones say about a player's choice of a target. -/
def verdictOfZones (w : World) (player target : Creature) : Verdict :=
  let mine := w.zoneOf player
  let theirs := w.zoneOf target
  if player.has (·.ignoresProtection) then .allowed
  else if mine = .protection then .attackerInProtectionZone
  else if theirs = .protection then .targetInProtectionZone
  else if (w.playerInCharge target).isNone then .allowed
  else if mine = .noPvp then .actionInNoPvpZone
  else if theirs = .noPvp then .targetInProtectionZone
  else .allowed

/-- What secure mode and a black skull say about a player's choice of a player. -/
def verdictOfSkulls (w : World) (player target : Creature) : Verdict :=
  if player.safeMode then
    if player.isPartner target || player.isWarPartner target || player.isGuildEnemy target then
      .allowed
    else if target.skull = .none && !w.bothInPvpZone player target then .secureMode
    else .allowed
  else if player.skull = .black && target.skull = .none && !target.hasAttacked player then
    .notThisPerson
  else .allowed

/-- **Whether a player may pick a target.** -/
def verdictOnTarget (w : World) (player target : Creature) : Verdict :=
  if player.id = target.id then .notThisPerson
  else
    let zones := w.verdictOfZones player target
    if !zones.isAllowed then zones
    else if player.has (·.cannotUseCombat) || !target.attackable then refusal target
    else
      let skulls := if target.isPlayer then w.verdictOfSkulls player target else .allowed
      if !skulls.isAllowed then skulls else w.verdictOnAttack (some player) target

/-! ## §4. Kills and damage between players. -/

/-- Whether nothing excuses an attack of a player on another: no relation, no zone for it, and the
    victim did not begin. -/
def isUnprovoked (w : World) (player victim : Creature) : Bool :=
  !player.has (·.gainsNoFights) && !player.isPartner victim && !player.isWarPartner victim
    && !player.isGuildEnemy victim && !w.bothInPvpZone player victim && !victim.hasAttacked player

/-- Whether a kill earns the attacker's player a skull. -/
def isUnjustKill (w : World) (attacker target : Creature) : Bool :=
  match w.playerInCharge attacker with
  | none => false
  | some player =>
    target.isPlayer && target.id ≠ player.id && w.isUnprovoked player target && target.skull = .none

end Realm.World

namespace Realm.Rules

/-! ## §5. Scaling. -/

/-- A loss scaled to the percentage that holds for a victim. -/
def scaled (r : Rules) (change : Int32) (target : Creature) : Int32 :=
  if 0 ≤ change then change
  else
    let percent := if target.skull = .black then r.pvpDamageAtBlackSkulls else r.pvpDamage
    Int32.ofInt ((change.toInt * max percent.toInt 0).tdiv 100)

/-- **Scales losses between two different players,** and leaves all other changes alone. -/
def betweenPlayers (r : Rules) (attacker : Option Creature) (target : Creature) (change : Int32) :
    Int32 :=
  match attacker with
  | some a => if a.isPlayer && target.isPlayer && a.id ≠ target.id then r.scaled change target else change
  | none => change

end Realm.Rules
