/-
  Realm.Item.Codec — items as bytes.

  An item is its id, a run of tagged records and a zero tag.  Reading takes one record after the other
  into the item, so what was read before a fault is kept.
-/
import Realm.Blob.Field
import Realm.Item.Basic

namespace Realm

/-! ## §1. Tags. -/

namespace Tag

def finish : UInt8 := 0
def actionId : UInt8 := 4
def uniqueId : UInt8 := 5
def text : UInt8 := 6
def description : UInt8 := 7
def teleportTarget : UInt8 := 8
def depotId : UInt8 := 10
def runeCharges : UInt8 := 12
def houseDoorId : UInt8 := 14
def count : UInt8 := 15
def duration : UInt8 := 16
def decayState : UInt8 := 17
def writtenDate : UInt8 := 18
def writer : UInt8 := 19
def sleeperId : UInt8 := 20
def sleepStart : UInt8 := 21
def charges : UInt8 := 22
def containerItems : UInt8 := 23

end Tag

/-! ## §2. Writing. -/

/-- A tag and what follows it, when there is something to say. -/
def taggedWhen (needed : Bool) (tag : UInt8) (payload : List UInt8) : List UInt8 :=
  if needed then tag :: payload else []

/-- **The records of an item,** without the zero tag behind them. -/
def Item.encodeRecords (c : Catalogue) (i : Item) : List UInt8 :=
  let t := i.type c
  let b := i.attributes
  taggedWhen (t.stackable || t.holdsLiquid) Tag.count [(i.subtype c).toUInt8]
    ++ taggedWhen t.hasCharges Tag.charges (littleEndian 2 b.charges.toNat)
    ++ taggedWhen (t.moveable && b.actionId != 0) Tag.actionId (littleEndian 2 b.actionId.toNat)
    ++ taggedWhen (b.textOf .text != "") Tag.text (encodeShortText (b.textOf .text))
    ++ taggedWhen (b.writtenDate > 0) Tag.writtenDate (littleEndian 4 b.writtenDate.toNat)
    ++ taggedWhen (b.textOf .writer != "") Tag.writer (encodeShortText (b.textOf .writer))
    ++ taggedWhen (b.textOf .description != "") Tag.description
        (encodeShortText (b.textOf .description))
    ++ taggedWhen (b.has .duration) Tag.duration (littleEndian 4 b.duration.toUInt32.toNat)
    ++ taggedWhen (b.decaying != .idle) Tag.decayState [b.decaying.toNumber.toUInt32.toUInt8]

/-- The bytes of an item. -/
def Item.encode (c : Catalogue) (i : Item) : List UInt8 :=
  littleEndian 2 i.id.toNat ++ i.encodeRecords c ++ [Tag.finish]

/-! ## §3. Records. -/

/-- Why an item could not be read. -/
inductive ItemError
  | truncated (tag : UInt8)
  | unknownTag (tag : UInt8)
  | missingId
deriving Repr, DecidableEq

def ItemError.message : ItemError → String
  | truncated tag => s!"attribute {tag} truncated"
  | unknownTag tag => s!"unknown attribute tag {tag}"
  | missingId => "item id missing"

/-- What one record says of an item. -/
inductive Record
  | count (n : UInt8)
  | actionId (n : UInt16)
  | uniqueId (n : UInt16)
  | text (s : String)
  | writtenDate (n : UInt32)
  | writer (s : String)
  | description (s : String)
  | charges (n : UInt16)
  | duration (n : Int32)
  | decayState (n : UInt8)
  /-- Of use to other kinds of items; passed over. -/
  | foreign
  /-- The number of items inside, which follow somewhere else. -/
  | container (n : UInt32)
deriving Repr, DecidableEq

/-- How many bytes a tag for other kinds of items has behind it. -/
def Tag.foreignSize? (tag : UInt8) : Option Nat :=
  if tag = depotId then some 2
  else if tag = houseDoorId then some 1
  else if tag = sleeperId || tag = sleepStart then some 4
  else if tag = teleportTarget then some 5
  else none

/-- The payload of a tag: nothing for a tag that is not known, else the record, when it is there. -/
def Record.payload? (tag : UInt8) (c : Cursor) : Option (Option (Record × Cursor)) :=
  if tag = Tag.count || tag = Tag.runeCharges then
    some (c.u8?.map fun (n, c) => (.count n, c))
  else if tag = Tag.actionId then some (c.u16?.map fun (n, c) => (.actionId n, c))
  else if tag = Tag.uniqueId then some (c.u16?.map fun (n, c) => (.uniqueId n, c))
  else if tag = Tag.text then some (c.shortText?.map fun (s, c) => (.text s, c))
  else if tag = Tag.writtenDate then some (c.u32?.map fun (n, c) => (.writtenDate n, c))
  else if tag = Tag.writer then some (c.shortText?.map fun (s, c) => (.writer s, c))
  else if tag = Tag.description then some (c.shortText?.map fun (s, c) => (.description s, c))
  else if tag = Tag.charges then some (c.u16?.map fun (n, c) => (.charges n, c))
  else if tag = Tag.duration then some (c.i32?.map fun (n, c) => (.duration n, c))
  else if tag = Tag.decayState then some (c.u8?.map fun (n, c) => (.decayState n, c))
  else if tag = Tag.containerItems then some (c.u32?.map fun (n, c) => (.container n, c))
  else (Tag.foreignSize? tag).map fun size => (c.skip? size).map fun c => (.foreign, c)

/-- What a record does to an item. -/
def Item.applyRecord (c : Catalogue) (i : Item) : Record → Item
  | .count n => i.setSubtype c n.toUInt16
  | .actionId n => i.setAttributes (·.setActionId n)
  | .uniqueId n => i.setUniqueId n
  | .text s => i.setAttributes (·.setText .text s)
  | .writtenDate n => i.setAttributes (·.setWrittenDate n)
  | .writer s => i.setAttributes (·.setText .writer s)
  | .description s => i.setAttributes (·.setText .description s)
  | .charges n => i.setSubtype c n
  | .duration n => i.setAttributes (·.setDuration (max n 0))
  | .decayState n => if n = 0 then i else i.setAttributes (·.setDecaying .pending)
  | .foreign => i
  | .container _ => i

/-! ## §4. Reading. -/

/-- How a run of records ended. -/
inductive RecordsEnd
  /-- At the zero tag or at the end of the bytes. -/
  | complete
  /-- At the number of items inside a container. -/
  | container (n : UInt32)
  | failed (e : ItemError)
deriving Repr, DecidableEq

/-- Reads records into an item until the run ends; `fuel` bounds their number. -/
def Item.decodeRecordsFuel (types : Catalogue) : Nat → Item → Cursor → RecordsEnd × Item × Cursor
  | 0, i, c => (.complete, i, c)
  | fuel + 1, i, c =>
    match c.u8? with
    | none => (.complete, i, c)
    | some (tag, c) =>
      if tag = Tag.finish then (.complete, i, c)
      else
        match Record.payload? tag c with
        | none => (.failed (.unknownTag tag), i, c)
        | some none => (.failed (.truncated tag), i, c)
        | some (some (.container n, c)) => (.container n, i, c)
        | some (some (r, c)) => decodeRecordsFuel types fuel (i.applyRecord types r) c

/-- **The run of whole records at a cursor,** read into an item: how it ended, the item, and the cursor
    there.  Every record takes at least its tag, so there are no more of them than bytes. -/
def Item.decodeRecords (types : Catalogue) (i : Item) (c : Cursor) : RecordsEnd × Item × Cursor :=
  i.decodeRecordsFuel types (c.remaining + 1) c

/-- An item read whole, or up to the number of items inside it. -/
structure DecodedItem where
  item : Item
  /-- The number of items inside, when the bytes say one. -/
  inside : Option UInt32
  cursor : Cursor
deriving Repr, DecidableEq

/-- **An item from its bytes.** -/
def Item.decode (types : Catalogue) (c : Cursor) : Except ItemError DecodedItem :=
  match c.u16? with
  | none => .error .missingId
  | some (id, c) =>
    match (Item.new types id 0).decodeRecords types c with
    | (.complete, item, c) => .ok ⟨item, none, c⟩
    | (.container n, item, c) => .ok ⟨item, some n, c⟩
    | (.failed e, _, _) => .error e

end Realm
