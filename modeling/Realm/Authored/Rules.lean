/-
  Realm.Authored.Rules — the rules of a world as authors write them.
-/
import Realm.Combat.Rules
import Realm.Yaml.Decoder

namespace Realm.Authored

open Yaml (Node Decoding Decoder)

/-- The names of the rules. -/
def ruleNames : List String :=
  ["world_type", "pvp_damage", "pvp_damage_at_black_skulls", "min_pvp_level",
    "min_pvp_level_applies_to_summons", "can_pass_through", "in_fight_duration_ms",
    "remove_weapon_charges"]

/-- Rules from a value; those that are not written are the usual ones. -/
def rulesOf (n : Node Nat) : Decoding Rules := do
  let fields ← Decoder.known ruleNames n
  let usual : Rules := {}
  pure {
    worldType := ← Decoder.fieldOr fields "world_type" (Decoder.choice WorldType.ofName?) usual.worldType
    pvpDamage := ← Decoder.fieldOr fields "pvp_damage" Decoder.int32 usual.pvpDamage
    pvpDamageAtBlackSkulls :=
      ← Decoder.fieldOr fields "pvp_damage_at_black_skulls" Decoder.int32 usual.pvpDamageAtBlackSkulls
    minPvpLevel := ← Decoder.fieldOr fields "min_pvp_level" Decoder.uint32 usual.minPvpLevel
    minPvpLevelForSummons :=
      ← Decoder.fieldOr fields "min_pvp_level_applies_to_summons" Decoder.bool usual.minPvpLevelForSummons
    canPassThrough := ← Decoder.fieldOr fields "can_pass_through" Decoder.bool usual.canPassThrough
    fightDuration := ← Decoder.fieldOr fields "in_fight_duration_ms" Decoder.uint32 usual.fightDuration
    removesWeaponCharges :=
      ← Decoder.fieldOr fields "remove_weapon_charges" Decoder.bool usual.removesWeaponCharges }

/-- What is said of rules that cannot be read. -/
def rulesFault : String := "combat rules parse failed"

/-- **Reads rules.** -/
def rules (text : String) : Except String Rules :=
  match Yaml.read? text rulesOf with
  | some r => .ok r
  | none => .error rulesFault

end Realm.Authored
