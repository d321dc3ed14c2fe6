/-
  Realm.World.Fight — who began a fight, how long fights last, and what time does to a world.

  A player's fight holds a timer.  When it runs out, the player is out of the fight: free to enter
  protection zones, and no longer held to have attacked anyone.
-/
import Realm.World.Legality

namespace Realm.World

/-! ## §1. Blows. -/

/-- Puts it down to the attacker's player that the target's player was attacked, unless something
    excuses that; the first time it earns a white skull among players without skulls. -/
def noteAttack (w : World) (attacker target : CreatureId) : World :=
  let players := do
    let player ← w.playerInCharge (← w.creature? attacker)
    let victim ← w.playerInCharge (← w.creature? target)
    pure (player, victim)
  match players with
  | none => w
  | some (player, victim) =>
    if player.id ≠ victim.id ∧ w.isUnprovoked player victim then
      let marked := player.skull = .none && victim.skull = .none
      w.modifyCreature player.id fun c =>
        { c with attacked := c.attacked.insert victim.id
                 skull := if marked then .white else c.skull }
    else w

/-- **Keeps a player in a fight** for a time at least, and out of protection zones if it is to be. -/
def extendFight (w : World) (id : CreatureId) (ticks : UInt32) (lock : Bool) : World :=
  match w.creature? id with
  | none => w
  | some c =>
    if c.isPlayer then
      let locked := c.protectionLocked || lock
      let w := w.modifyCreature id fun c => { c with protectionLocked := locked }
      { w with fights := w.fights.insert id (max (w.fightTicks id) ticks) }.emit
        (.inFight id ticks locked)
    else w

/-- A creature attacked another: its player is in a fight. -/
def attackedCreature (w : World) (attacker target : CreatureId) : World :=
  let w := w.noteAttack attacker target
  match (w.creature? attacker).bind w.playerInCharge with
  | some player => w.extendFight player.id w.rules.fightDuration false
  | none => w

/-- A creature was attacked: if it is a player, it is in a fight. -/
def attacked (w : World) (target : CreatureId) : World :=
  if (w.creature? target).any Creature.isPlayer then w.extendFight target w.rules.fightDuration false
  else w

/-! ## §2. Time. -/

/-- A change of health that a condition makes. -/
structure Toll where
  owner : Option CreatureId
  type : DamageType
  change : Int32
deriving Repr, DecidableEq

/-- What a stretch of time costs through a condition; conditions without a kind of damage of their own
    do damage of no particular kind. -/
def tollOf (time : UInt32) (d : Condition) : Option Toll :=
  let change := (d.advance time).1
  if change = 0 then none else some ⟨d.owner, d.kind.damageType.getD .undefined, change⟩

/-- The conditions left after a stretch of time. -/
def conditionsAfter (time : UInt32) (ds : List Condition) : List Condition :=
  (ds.map fun d => (d.advance time).2).filter fun d => !d.isExpired

/-- Takes one toll; a change that lands is told of. -/
def takeToll (id : CreatureId) (s : Vitals × List Event) (t : Toll) : Vitals × List Event :=
  let (applied, vitals) := s.1.changeHealth t.type t.change
  (vitals, if applied = 0 then s.2 else .healthChanged t.owner id t.type applied :: s.2)

/-- Vitals after a stretch of time, and what happened, the last thing first. -/
def vitalsAfter (time : UInt32) (c : Creature) : Vitals × List Event :=
  (c.conditions.filterMap (tollOf time)).foldl (takeToll c.id) (c.vitals, [])

/-- A creature after a stretch of time. -/
def creatureAfter (time : UInt32) (c : Creature) : Creature :=
  { c with vitals := (vitalsAfter time c).1, conditions := conditionsAfter time c.conditions }

/-- Whether a creature dies of its conditions in a stretch of time. -/
def diesIn (time : UInt32) (c : Creature) : Bool :=
  !c.vitals.isDead && (vitalsAfter time c).1.isDead

/-- What happens to creatures in a stretch of time: all changes of health, then the deaths. -/
def eventsIn (time : UInt32) (cs : List Creature) : List Event :=
  cs.flatMap (fun c => (vitalsAfter time c).2.reverse)
    ++ (cs.filter (diesIn time)).map fun c => .died c.id

/-- A fight's timer after a stretch of time; one that has run out is gone. -/
def timerAfter (time ticks : UInt32) : Option UInt32 := if ticks ≤ time then none else some (ticks - time)

/-- A creature whose fight is over. -/
def outOfFight (c : Creature) : Creature := { c with protectionLocked := false, attacked := {} }

/-- **Time passes.**  Conditions take their toll and end, and fights run out. -/
def tick (w : World) (time : UInt32) : World :=
  let ended (id : CreatureId) : Bool := w.fights.contains id && w.fightTicks id ≤ time
  { w with
    creatures := w.creatures.map fun id c =>
      let c := creatureAfter time c
      if ended id then outOfFight c else c
    fights := w.fights.filterMap fun _ ticks => timerAfter time ticks
    events := (eventsIn time (w.creatures.toList.map Prod.snd)).reverse ++ w.events }

end Realm.World
