/-
  Realm.Authored.Items — item types as authors write them.
-/
import Realm.Item.Catalogue
import Realm.Yaml.Decoder

namespace Realm.Authored

open Yaml (Node Decoding Decoder)

/-- The names of an item type's fields. -/
def itemNames : List String :=
  ["id", "name", "group", "stackable", "moveable", "charges", "decay_to", "decay_time_secs",
    "stop_time", "block_projectile", "floor_change", "weapon_type", "attack"]

/-- An item type from a value; what is not written is as usual. -/
def itemTypeOf (n : Node Nat) : Decoding ItemType := do
  let fields ← Decoder.known itemNames n
  let usual : ItemType := {}
  pure {
    id := ← Decoder.fieldOr fields "id" Decoder.uint16 usual.id
    name := ← Decoder.fieldOr fields "name" Decoder.text usual.name
    group := ← Decoder.fieldOr fields "group" (Decoder.choice ItemGroup.ofName?) usual.group
    stackable := ← Decoder.fieldOr fields "stackable" Decoder.bool usual.stackable
    moveable := ← Decoder.fieldOr fields "moveable" Decoder.bool usual.moveable
    charges := ← Decoder.fieldOr fields "charges" Decoder.uint32 usual.charges
    decayTo := ← Decoder.fieldOr fields "decay_to" (Decoder.optional Decoder.uint16) usual.decayTo
    decayTimeSecs := ← Decoder.fieldOr fields "decay_time_secs" Decoder.uint32 usual.decayTimeSecs
    stopTime := ← Decoder.fieldOr fields "stop_time" Decoder.bool usual.stopTime
    blockProjectile := ← Decoder.fieldOr fields "block_projectile" Decoder.bool usual.blockProjectile
    floorChange := ← Decoder.fieldOr fields "floor_change" Decoder.bool usual.floorChange
    weaponType := ← Decoder.fieldOr fields "weapon_type" (Decoder.choice WeaponType.ofName?) usual.weaponType
    attack := ← Decoder.fieldOr fields "attack" Decoder.int32 usual.attack }

/-- The item types of a whole text. -/
def itemTypesOf (n : Node Nat) : Decoding (List ItemType) := do
  let fields ← Decoder.known ["items"] n
  Decoder.fieldOr fields "items" (Decoder.list itemTypeOf) []

/-- Why item types cannot be had from a text. -/
inductive ItemsFault
  | unreadable
  | repeated (id : UInt16)
deriving Repr, DecidableEq

def ItemsFault.message : ItemsFault → String
  | unreadable => "item types parse failed"
  | repeated id => s!"item type {id} already exists"

/-- Adds an item type whose id is new. -/
def addType (c : Catalogue) (t : ItemType) : Except ItemsFault Catalogue :=
  match c.insert? t with
  | some c => .ok c
  | none => .error (.repeated t.id)

/-- **Reads item types;** no two may have one id. -/
def items (text : String) : Except ItemsFault Catalogue :=
  match Yaml.read? text itemTypesOf with
  | some types => types.foldlM addType .empty
  | none => .error .unreadable

end Realm.Authored
