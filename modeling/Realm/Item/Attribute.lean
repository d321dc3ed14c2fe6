/-
  Realm.Item.Attribute — the sparse attributes of an item.

  A bag maps attributes to values.  It keeps one bit for each attribute that is there, and next to the
  bits the entries, in the order of the attributes, so a bag has one form whatever the order in which
  its attributes were set.  Text attributes hold texts that are not empty, the others hold 32-bit
  numbers; a write of the wrong kind changes nothing.  What is absent reads as the empty text or as zero.
-/

namespace Realm

/-! ## §1. Attributes. -/

/-- What an item can carry beside its type and count. -/
inductive Attribute
  | description
  | text
  | writtenDate
  | writer
  | actionId
  | uniqueId
  | owner
  | duration
  | decaying
  | corpseOwner
  | charges
  | fluidType
  | doorId
deriving Repr, DecidableEq

namespace Attribute

/-- The attributes in their order. -/
def all : List Attribute :=
  [description, text, writtenDate, writer, actionId, uniqueId, owner, duration, decaying, corpseOwner,
    charges, fluidType, doorId]

/-- The place of an attribute in the order. -/
def index : Attribute → Nat
  | description => 0
  | text => 1
  | writtenDate => 2
  | writer => 3
  | actionId => 4
  | uniqueId => 5
  | owner => 6
  | duration => 7
  | decaying => 8
  | corpseOwner => 9
  | charges => 10
  | fluidType => 11
  | doorId => 12

def name : Attribute → String
  | description => "description"
  | text => "text"
  | writtenDate => "written_date"
  | writer => "writer"
  | actionId => "action_id"
  | uniqueId => "unique_id"
  | owner => "owner"
  | duration => "duration"
  | decaying => "decaying"
  | corpseOwner => "corpse_owner"
  | charges => "charges"
  | fluidType => "fluid_type"
  | doorId => "door_id"

/-- Whether an attribute holds text. -/
def isText : Attribute → Bool
  | description | text | writer => true
  | _ => false

theorem index_injective {a b : Attribute} (h : a.index = b.index) : a = b := by
  cases a <;> cases b <;> first | rfl | simp [index] at h

theorem index_lt (a : Attribute) : a.index < 32 := by cases a <;> decide

/-- The bit of an attribute. -/
def flag (a : Attribute) : BitVec 32 := .twoPow 32 a.index

theorem getLsbD_flag (a : Attribute) (n : Nat) : a.flag.getLsbD n = decide (a.index = n) := by
  rw [flag, BitVec.getLsbD_twoPow, decide_eq_true a.index_lt, Bool.true_and]

end Attribute

/-- Where an item stands in its decay. -/
inductive DecayState
  | idle
  | pending
  | active
deriving Repr, DecidableEq

namespace DecayState

/-- The number that stands for a state. -/
def toNumber : DecayState → Int32
  | idle => 0
  | pending => 1
  | active => 2

/-- The state that a number stands for. -/
def ofNumber (n : Int32) : DecayState :=
  if n = 1 then pending else if n = 2 then active else idle

end DecayState

/-- What an attribute holds. -/
inductive AttributeValue
  | number (n : Int32)
  | text (s : String)
deriving Repr, DecidableEq

/-! ## §2. Bags. -/

/-- The attributes of an item: a bit for each one that is there, and what they hold, in order. -/
structure Bag where
  present : BitVec 32 := 0
  entries : List (Attribute × AttributeValue) := []
deriving Repr, DecidableEq

namespace Bag

/-- The bag that holds nothing. -/
def empty : Bag := {}

/-- Whether an attribute is there, which its bit says. -/
def has (b : Bag) (a : Attribute) : Bool := b.present.getLsbD a.index

/-- What a list of entries holds under an attribute. -/
def findIn? (a : Attribute) (entries : List (Attribute × AttributeValue)) :
    Option AttributeValue :=
  (entries.find? fun e => e.1 == a).map Prod.snd

/-- What a bag holds under an attribute.  The entries are asked only when the bit is set. -/
def lookup (b : Bag) (a : Attribute) : Option AttributeValue :=
  if b.has a then findIn? a b.entries else none

def isEmpty (b : Bag) : Bool := b.present == 0

/-- **Presence.**  The bits as a number. -/
def presence (b : Bag) : Nat := b.present.toNat

/-- Puts a value into a list that stands in the order of the attributes, over the old one if any. -/
def putEntry (a : Attribute) (v : AttributeValue) :
    List (Attribute × AttributeValue) → List (Attribute × AttributeValue)
  | [] => [(a, v)]
  | e :: rest =>
    if e.1 = a then (a, v) :: rest
    else if a.index < e.1.index then (a, v) :: e :: rest
    else e :: putEntry a v rest

/-- A bag with a value under an attribute; the bit is set and the entry stands in its place. -/
def put (b : Bag) (a : Attribute) (v : AttributeValue) : Bag :=
  { present := b.present ||| a.flag, entries := putEntry a v b.entries }

/-- A bag without an attribute. -/
def remove (b : Bag) (a : Attribute) : Bag :=
  if b.has a then
    { present := b.present &&& ~~~a.flag, entries := b.entries.filter fun e => e.1 != a }
  else b

/-! ### Plain reading and writing -/

/-- The text under an attribute, the empty one when there is none. -/
def textOf (b : Bag) (a : Attribute) : String :=
  match b.lookup a with
  | some (.text s) => if a.isText then s else ""
  | _ => ""

/-- The number under an attribute, zero when there is none. -/
def numberOf (b : Bag) (a : Attribute) : Int32 :=
  match b.lookup a with
  | some (.number n) => if a.isText then 0 else n
  | _ => 0

/-- Writes a text; an empty one, or one under a number attribute, changes nothing. -/
def setText (b : Bag) (a : Attribute) (s : String) : Bag :=
  if a.isText && s != "" then b.put a (.text s) else b

/-- Writes a number; one under a text attribute changes nothing. -/
def setNumber (b : Bag) (a : Attribute) (n : Int32) : Bag :=
  if a.isText then b else b.put a (.number n)

/-- Adds to a number, modulo 2 ^ 32; an absent one counts as zero. -/
def increase (b : Bag) (a : Attribute) (n : Int32) : Bag :=
  if a.isText then b
  else
    match b.lookup a with
    | some (.number m) => b.put a (.number (m + n))
    | _ => b.put a (.number n)

/-! ### The attributes by name -/

/-- The least action id; smaller ones are raised to it. -/
def minActionId : Int32 := 100

/-- The least unique id; smaller ones are raised to it. -/
def minUniqueId : Int32 := 1000

/-- A number attribute as an unsigned word of 16 bits. -/
def word16 (b : Bag) (a : Attribute) : UInt16 := (b.numberOf a).toUInt32.toUInt16

/-- A number attribute as an unsigned word of 32 bits. -/
def word32 (b : Bag) (a : Attribute) : UInt32 := (b.numberOf a).toUInt32

/-- Writes an unsigned word of 16 bits, raised to a least value. -/
def setWord16 (b : Bag) (a : Attribute) (n : UInt16) (least : Int32) : Bag :=
  b.setNumber a (max n.toUInt32.toInt32 least)

/-- Writes an unsigned word of 32 bits. -/
def setWord32 (b : Bag) (a : Attribute) (n : UInt32) : Bag := b.setNumber a n.toInt32

def actionId (b : Bag) : UInt16 := b.word16 .actionId

def setActionId (b : Bag) (n : UInt16) : Bag := b.setWord16 .actionId n minActionId

def uniqueId (b : Bag) : UInt16 := b.word16 .uniqueId

def setUniqueId (b : Bag) (n : UInt16) : Bag := b.setWord16 .uniqueId n minUniqueId

def charges (b : Bag) : UInt16 := b.word16 .charges

def setCharges (b : Bag) (n : UInt16) : Bag := b.setWord16 .charges n 0

def fluidType (b : Bag) : UInt16 := b.word16 .fluidType

def setFluidType (b : Bag) (n : UInt16) : Bag := b.setWord16 .fluidType n 0

def writtenDate (b : Bag) : UInt32 := b.word32 .writtenDate

def setWrittenDate (b : Bag) (n : UInt32) : Bag := b.setWord32 .writtenDate n

def owner (b : Bag) : UInt32 := b.word32 .owner

def setOwner (b : Bag) (n : UInt32) : Bag := b.setWord32 .owner n

def corpseOwner (b : Bag) : UInt32 := b.word32 .corpseOwner

def setCorpseOwner (b : Bag) (n : UInt32) : Bag := b.setWord32 .corpseOwner n

/-- Milliseconds left. -/
def duration (b : Bag) : Int32 := b.numberOf .duration

def setDuration (b : Bag) (n : Int32) : Bag := b.setNumber .duration n

/-- Takes milliseconds off the duration, modulo 2 ^ 32. -/
def decreaseDuration (b : Bag) (n : Int32) : Bag := b.increase .duration (-n)

def decaying (b : Bag) : DecayState := .ofNumber (b.numberOf .decaying)

def setDecaying (b : Bag) (s : DecayState) : Bag := b.setNumber .decaying s.toNumber

end Bag

end Realm
