/-
  Realm.Creature.Basic — players, monsters and townsfolk: their state, their relations to each other,
  and the conditions they carry.
-/
import Realm.Condition
import Realm.Creature.Vitals
import Realm.Item.Basic
import Realm.Position

namespace Realm

/-! ## §1. Parts of a creature. -/

inductive CreatureKind
  | player
  | npc
  | monster
deriving Repr, DecidableEq

/-- The mark that a player's deeds earn. -/
inductive Skull
  | none | yellow | green | white | red | black
deriving Repr, DecidableEq

namespace Skull

def all : List Skull := [none, yellow, green, white, red, black]

def name : Skull → String
  | none => "none"
  | yellow => "yellow"
  | green => "green"
  | white => "white"
  | red => "red"
  | black => "black"

end Skull

/-- What a player's group allows or forbids. -/
structure PlayerFlags where
  cannotUseCombat : Bool := false
  cannotAttackPlayers : Bool := false
  cannotAttackMonsters : Bool := false
  cannotBeAttacked : Bool := false
  ignoresProtection : Bool := false
  gainsNoFights : Bool := false
deriving Repr, DecidableEq

/-- The flags whose bits are set; bits without a meaning are dropped. -/
def PlayerFlags.ofBits (n : Nat) : PlayerFlags :=
  ⟨n.testBit 0, n.testBit 1, n.testBit 2, n.testBit 3, n.testBit 4, n.testBit 5⟩

/-- What a vocation makes of healing and of damage by magic. -/
structure Vocation where
  healing : Float32 := 1
  magic : Float32 := 1

/-- Belonging to a guild: which one, the guilds it fights, and whether it is at war. -/
structure Guild where
  id : UInt32
  enemies : List UInt32 := []
  atWar : Bool := false
deriving Repr, DecidableEq

/-- The bounds of a change. -/
structure Span where
  min : Int32
  max : Int32
deriving Repr, DecidableEq

/-! ## §2. Creatures. -/

/-- A creature. -/
structure Creature where
  id : CreatureId
  name : String
  kind : CreatureKind
  position : Position
  vitals : Vitals := .full 150 0
  level : UInt32 := 1
  magicLevel : UInt32 := 0
  meleeSkill : UInt32 := 10
  vocation : Vocation := {}
  skull : Skull := .none
  flags : PlayerFlags := {}
  /-- Whether the player is kept from attacking unmarked players by mistake. -/
  safeMode : Bool := true
  guild : Option Guild := none
  party : Option UInt32 := none
  master : Option CreatureId := none
  attackable : Bool
  /-- A fixed change for whatever this creature casts. -/
  span : Option Span := none
  weapon : Option Item := none
  immunities : List ConditionKind := []
  conditions : List Condition := []
  /-- Whom this player attacked first in the current fight. -/
  attacked : CreatureSet := {}
  attackLocked : CreatureSet := {}
  /-- Whether a fight keeps this player out of protection zones. -/
  protectionLocked : Bool := false

namespace Creature

/-- A new creature; all but townsfolk can be attacked. -/
def new (id : CreatureId) (name : String) (kind : CreatureKind) (position : Position) : Creature :=
  { id, name, kind, position, attackable := kind ≠ .npc }

def isPlayer (c : Creature) : Bool := c.kind = .player

def isMonster (c : Creature) : Bool := c.kind = .monster

/-- Whether a flag is set; only players have flags. -/
def has (c : Creature) (flag : PlayerFlags → Bool) : Bool := c.isPlayer && flag c.flags

/-! ## §3. Relations. -/

/-- Members of one party. -/
def isPartner (c d : Creature) : Bool :=
  match c.party, d.party with
  | some a, some b => a == b
  | _, _ => false

/-- Whether this one's guild fights the other's. -/
def isGuildEnemy (c d : Creature) : Bool :=
  match c.guild, d.guild with
  | some a, some b => a.enemies.contains b.id
  | _, _ => false

/-- Members of one guild that is at war. -/
def isWarPartner (c d : Creature) : Bool :=
  match c.guild, d.guild with
  | some a, some b => a.id == b.id && a.atWar
  | _, _ => false

/-- Whether this one attacked the other first; one that gains no fights never did. -/
def hasAttacked (c d : Creature) : Bool :=
  !c.has PlayerFlags.gainsNoFights && c.attacked.contains d.id

def isLockedAgainst (c d : Creature) : Bool := c.attackLocked.contains d.id

/-! ## §4. Conditions. -/

def isImmune (c : Creature) (k : ConditionKind) : Bool := c.immunities.contains k

def hasCondition (c : Creature) (k : ConditionKind) : Bool := c.conditions.any fun d => d.kind = k

/-- A list of conditions with one more: the first of its kind is refreshed, else it goes to the end. -/
def addTo : List Condition → Condition → List Condition
  | [], d => [d]
  | c :: rest, d => if c.kind = d.kind then c.merge d :: rest else c :: addTo rest d

/-- **Adds or refreshes a condition,** unless the creature is immune to it. -/
def addCondition? (c : Creature) (d : Condition) : Option Creature :=
  if c.isImmune d.kind then none else some { c with conditions := addTo c.conditions d }

/-- Adds a condition where that is possible. -/
def addCondition (c : Creature) (d : Condition) : Creature := (c.addCondition? d).getD c

/-- Takes every condition of a kind away. -/
def removeCondition (c : Creature) (k : ConditionKind) : Creature :=
  { c with conditions := c.conditions.filter fun d => d.kind ≠ k }

end Creature

end Realm
