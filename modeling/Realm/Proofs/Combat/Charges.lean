/-
  Realm.Proofs.Combat.Charges — what a cast costs the weapon that it goes by.

  A cast finds out its change once, before it looks whom it hits, and only then can a weapon lose a
  charge: however many creatures it hits after that, and whether it hits any at all, no weapon is worn
  again.  The charge is read from the attribute for charges, and what is left of it is written back as
  the subtype.  For most types that is the same number.  A stack and a liquid have another subtype, and
  a new one of them has no charges: one cast takes the whole stack, or empties the vial.

  Main statements:
  * `weapon?_enter` — a cast wears no weapon but for its charge;
  * `oneLess_setSubtype_iff`, `oneLess_new_iff` — when that is one less of the weapon;
  * `cast_costs_one_charge_iff` — what a cast that goes by a charged weapon costs.
-/
import Realm.Proofs.Combat.Changes

namespace Realm

/-! ## §1. One less. -/

/-- One less of a number, or still nothing. -/
def oneLess (n : UInt16) : UInt16 := if n = 0 then 0 else n - 1

theorem oneLess_eq_zero_iff (n : UInt16) : oneLess n = 0 ↔ n ≤ 1 := by
  unfold oneLess
  grind

namespace Item

variable {c : Catalogue} {i : Item}

/-- What a subtype reads as once it is written: a count is cut to a byte, and one is stored as none. -/
def written (t : ItemType) (n : UInt16) : UInt16 :=
  if t.subtypeAttribute?.isSome then n else (Record.stored n.toUInt8).toUInt16

theorem written_zero (t : ItemType) : written t 0 = 0 := ite_self 0

/-- **Where the subtype of an item is kept:** in its own attribute, or in the count. -/
theorem subtype_eq (c : Catalogue) (i : Item) :
    i.subtype c = match (i.type c).subtypeAttribute? with
      | some a => i.attributes.word16 a
      | none => i.count.toUInt16 := by
  unfold subtype ItemType.subtypeAttribute?
  by_cases hliquid : (i.type c).holdsLiquid = true
  · simp only [if_pos hliquid]
    rfl
  · by_cases hstack : (i.type c).stackable = true
    · simp [hliquid, hstack]
    · by_cases hcharges : (i.type c).hasCharges = true
      · simp [hliquid, hstack, hcharges, Bag.charges]
      · simp [hliquid, hstack, hcharges]

theorem subtype_setSubtype (c : Catalogue) (i : Item) (n : UInt16) :
    (i.setSubtype c n).subtype c = written (i.type c) n := by
  have htype : (i.setSubtype c n).type c = i.type c := by rw [type, type, setSubtype_id]
  rw [subtype_eq, htype, setSubtype_eq, written]
  cases hkept : (i.type c).subtypeAttribute? with
  | none => rfl
  | some a =>
    have hnumber : a.isText = false := by
      rcases (ItemType.subtypeAttribute?_eq_some _ a).1 hkept with ⟨-, rfl⟩ | ⟨-, rfl⟩ <;> rfl
    have hheld : (i.attributes.put a (.word n)).lookup a = some (.word n) := by
      rw [Bag.lookup_put, if_pos rfl]
    exact Bag.word16_of_lookup hnumber hheld

/-- **One less of an item:** its subtype is one less, and nothing else of it is different. -/
structure OneLess (c : Catalogue) (i j : Item) : Prop where
  subtype : j.subtype c = oneLess (i.subtype c)
  id : j.id = i.id
  count : (i.type c).subtypeAttribute?.isSome = true → j.count = i.count
  attributes : ∀ a, (i.type c).subtypeAttribute? ≠ some a →
    j.attributes.lookup a = i.attributes.lookup a

/-- **A subtype written over the old one** makes one less of an item when it reads as one less. -/
theorem oneLess_setSubtype_iff (c : Catalogue) (i : Item) (n : UInt16) :
    OneLess c i (i.setSubtype c n) ↔ written (i.type c) n = oneLess (i.subtype c) := by
  rw [← subtype_setSubtype]
  refine ⟨OneLess.subtype, fun hsubtype =>
    ⟨hsubtype, setSubtype_id c i n, fun hheld => ?_, fun a hother => ?_⟩⟩
  · obtain ⟨a, ha⟩ := Option.isSome_iff_exists.1 hheld
    rw [setSubtype_eq, ha]
    rfl
  · rw [lookup_setSubtype, Record.subtypeSetting]
    cases hkept : (i.type c).subtypeAttribute? with
    | none => rfl
    | some held =>
      have hne : held ≠ a := fun hsame => hother (hkept.trans (congrArg some hsame))
      simp [hne]

/-- Where charges are mixed with nothing, they are the subtype, and can be written as they are. -/
theorem subtypeAttribute?_of_unmixed {t : ItemType} (hcharges : t.hasCharges = true)
    (h : t.mixesCharges = false) : t.subtypeAttribute? = some .charges := by
  rw [ItemType.subtypeAttribute?_eq_some]
  simp only [ItemType.mixesCharges, hcharges, Bool.true_and, Bool.or_eq_false_iff] at h
  exact .inr ⟨⟨h.2, hcharges, h.1⟩, rfl⟩

/-- One charge less is one less, where charges are mixed with nothing. -/
theorem oneLess_of_unmixed (hcharges : (i.type c).hasCharges = true)
    (h : (i.type c).mixesCharges = false) :
    OneLess c i (i.setSubtype c (oneLess i.attributes.charges)) := by
  have hkept := subtypeAttribute?_of_unmixed hcharges h
  rw [oneLess_setSubtype_iff, subtype_eq, written, hkept]
  rfl

/-- Of a new stack or liquid, one charge less is one less only if there was no more than one. -/
theorem oneLess_new_of_mixed {id amount : UInt16} (hnew : i = .new c id amount)
    (h : (i.type c).mixesCharges = true) :
    OneLess c i (i.setSubtype c (oneLess i.attributes.charges)) ↔ i.subtype c ≤ 1 := by
  have hnone : i.attributes.charges = 0 := by
    have htype : i.type c = c.typeOf id := by rw [hnew, type, new_id]
    rw [hnew]
    exact charges_new_of_mixesCharges c amount (htype ▸ h)
  rw [oneLess_setSubtype_iff, hnone, oneLess, if_pos rfl, written_zero, eq_comm, oneLess_eq_zero_iff]

end Item

/-! ## §2. Weapons. -/

namespace World

/-- The weapon that a creature holds. -/
def weapon? (w : World) (id : CreatureId) : Option Item := (w.creature? id).bind Creature.weapon

variable {w w' : World}

/-- Whoever may not be armed anew holds what it held. -/
theorem Frame.weapon?_eq {hurt marked armed : CreatureId → Prop} {gain : Position → Nat}
    (h : w.Frame hurt marked armed gain w') {id : CreatureId} (hno : ¬ armed id) :
    w'.weapon? id = w.weapon? id := by
  have hcreature := h.creature id
  unfold weapon?
  generalize w.creature? id = before, w'.creature? id = after at hcreature ⊢
  cases hcreature with
  | none => rfl
  | some hwithin => exact hwithin.unarmed hno

end World

namespace Cast

variable (c : Cast) {w w' : World}

/-- Changes that wear no weapon leave every weapon as it is. -/
theorem weapon?_changes (h : c.Changes False w w') (id : CreatureId) :
    w'.weapon? id = w.weapon? id := by
  induction h with
  | refl => rfl
  | tail _ hlast ih => exact ((hlast.frame c).weapon?_eq not_false).trans ih

/-- **A cast wears no weapon** but for the charge that it pays first, however many it hits. -/
theorem weapon?_enter (s : Scene) (e : Entry) (id : CreatureId) :
    (c.enter s e).world.weapon? id = (pay s.world (e.charge? c s.world)).weapon? id :=
  c.weapon?_changes (c.changes_paid s e) id

/-- Paying a charge touches nobody else's weapon. -/
theorem weapon?_pay_of_ne (w : World) {player : Creature} (weapon : Item) {id : CreatureId}
    (hother : id ≠ player.id) : (pay w (some (player, weapon))).weapon? id = w.weapon? id := by
  rw [pay, World.weapon?, World.creature?_modifyCreature, if_neg hother.symm]
  rfl

/-! ## §3. Charges. -/

/-- **A player goes by a charged weapon:** a registered player casts by skill, brings no bounds of its
    own, has none from the combat's own rule, and holds a weapon of a type with charges. -/
structure Wields (w : World) (target : Option CreatureId) (player : Creature) (weapon : Item) :
    Prop where
  caster : c.caster = some player.id
  registered : w.creature? player.id = some player
  isPlayer : player.isPlayer = true
  unbound : player.span = none
  unruled : c.ownSpan w player target = none
  bySkill : c.combat.formula.kind = .skill
  holds : player.weapon = some weapon
  charged : (weapon.type w.catalogue).hasCharges = true

namespace Wields

variable {c} {target : Option CreatureId} {player : Creature} {weapon : Item}

/-- Whether it loses a charge hangs on the combat and on the rules. -/
theorem charge?_eq (h : c.Wields w target player weapon) :
    c.charge? w target
      = if c.settings.usesCharges && w.rules.removesWeaponCharges then some (player, weapon)
        else none := by
  have hcaster : c.caster? w = some player := by
    rw [caster?, h.caster, Option.bind_some, h.registered]
  have hwears : c.wears w weapon = (c.settings.usesCharges && w.rules.removesWeaponCharges) := by
    rw [wears, h.charged, Bool.and_true]
  rw [charge?, hcaster, Option.filter_some, h.isPlayer, h.unbound, h.unruled]
  show formulaCharge? c w player = _
  rw [formulaCharge?, if_pos h.bySkill, h.holds, Option.filter_some, hwears]
  split <;> rfl

/-- What the player holds once the charge is paid. -/
theorem weapon?_pay (h : c.Wields w target player weapon) :
    (pay w (some (player, weapon))).weapon? player.id = some (worn w weapon) := by
  rw [pay, World.weapon?, World.creature?_modifyCreature, if_pos rfl, h.registered]
  rfl

theorem weapon?_eq (h : c.Wields w target player weapon) : w.weapon? player.id = some weapon := by
  rw [World.weapon?, h.registered, Option.bind_some, h.holds]

/-- **After a cast** the player's weapon is worn once, or not at all. -/
theorem weapon?_enter (s : Scene) {e : Entry} (h : c.Wields s.world target player weapon)
    (hdamage : c.settings.damageType ≠ .none) (hasks : e.asks = some target) :
    (c.enter s e).world.weapon? player.id
      = some (if c.settings.usesCharges && s.world.rules.removesWeaponCharges then
          worn s.world weapon else weapon) := by
  rw [Cast.weapon?_enter, c.charge?_of_asks hdamage hasks, h.charge?_eq]
  split
  · exact h.weapon?_pay
  · exact h.weapon?_eq

end Wields

/-- **What a cast costs a charged weapon.**  Where charges are used up, its subtype becomes one charge
    less, and else it stays as it is; nobody else's weapon is touched.  Where the type mixes charges
    with nothing, the weapon is then one less of itself.  Where it mixes them with a count or a liquid,
    it is that exactly when what is left of the charges reads as one less of the count or the liquid; of
    a new weapon, only when there was no more than one. -/
theorem cast_costs_one_charge_iff (s : Scene) {e : Entry} {target : Option CreatureId}
    {player : Creature} {weapon : Item} (h : c.Wields s.world target player weapon)
    (hdamage : c.settings.damageType ≠ .none) (hasks : e.asks = some target) :
    (∀ id ≠ player.id, (c.enter s e).world.weapon? id = s.world.weapon? id)
    ∧ (¬ (c.settings.usesCharges = true ∧ s.world.rules.removesWeaponCharges = true) →
      (c.enter s e).world.weapon? player.id = some weapon)
    ∧ (c.settings.usesCharges = true → s.world.rules.removesWeaponCharges = true →
      ∃ left, (c.enter s e).world.weapon? player.id = some left
        ∧ left = weapon.setSubtype s.world.catalogue (oneLess weapon.attributes.charges)
        ∧ (weapon.OneLess s.world.catalogue left
          ↔ (weapon.type s.world.catalogue).mixesCharges = false
            ∨ Item.written (weapon.type s.world.catalogue) (oneLess weapon.attributes.charges)
              = oneLess (weapon.subtype s.world.catalogue))
        ∧ ∀ id amount, weapon = .new s.world.catalogue id amount →
          (weapon.OneLess s.world.catalogue left
            ↔ (weapon.type s.world.catalogue).mixesCharges = false
              ∨ weapon.subtype s.world.catalogue ≤ 1)) := by
  have hweapon := h.weapon?_enter s hdamage hasks
  have hunmixed : (weapon.type s.world.catalogue).mixesCharges = false →
      weapon.OneLess s.world.catalogue
        (weapon.setSubtype s.world.catalogue (oneLess weapon.attributes.charges)) :=
    Item.oneLess_of_unmixed h.charged
  refine ⟨fun id hother => ?_, fun hfree => ?_, fun huses hremoves => ?_⟩
  · rw [c.weapon?_enter, c.charge?_of_asks hdamage hasks, h.charge?_eq]
    split
    · exact weapon?_pay_of_ne s.world weapon hother
    · rfl
  · rw [hweapon, if_neg (by simpa using hfree)]
  · rw [huses, hremoves] at hweapon
    refine ⟨_, hweapon, rfl, ?_, fun id amount hnew => ?_⟩
    · show weapon.OneLess _ (weapon.setSubtype _ (oneLess weapon.attributes.charges)) ↔ _
      rw [← Item.oneLess_setSubtype_iff]
      exact ⟨.inr, fun hone => hone.elim hunmixed id⟩
    · by_cases hmixes : (weapon.type s.world.catalogue).mixesCharges = true
      · have hnot : ¬ (weapon.type s.world.catalogue).mixesCharges = false := by rw [hmixes]; decide
        exact (Item.oneLess_new_of_mixed hnew hmixes).trans (or_iff_right hnot).symm
      · have hplain := Bool.eq_false_iff.2 hmixes
        exact iff_of_true (hunmixed hplain) (.inl hplain)

/-- Swords with three charges, and throwing stars with five, which stack. -/
def armory : Catalogue :=
  ⟨(({} : Std.ExtTreeMap UInt16 ItemType).insert 3310
    { id := 3310, name := "sword", charges := 3, weaponType := .sword, attack := 40 }).insert 2399
    { id := 2399, name := "throwing star", stackable := true, charges := 5, weaponType := .distance,
      attack := 30 }⟩

/-- A knight with a new weapon. -/
def hunter (weapon amount : UInt16) : Creature :=
  { Creature.new ⟨1⟩ "knight" .player ⟨100, 100, 7⟩ with weapon := some (.new armory weapon amount) }

/-- The knight, and a wolf beside it. -/
def hunt (weapon amount : UInt16) : World :=
  ((World.new armory {} 0).addCreature (hunter weapon amount)).addCreature
    (Creature.new ⟨2⟩ "wolf" .monster ⟨101, 100, 7⟩)

/-- The knight's volley, which goes by the weapon and takes its charges. -/
def volley : Cast :=
  ⟨{ settings := { damageType := .physical, usesCharges := true }, formula := { kind := .skill } },
    some ⟨1⟩⟩

/-- A sword is worn by one charge of its three. -/
theorem cast_costs_one_charge_iff_sword :
    volley.Wields (hunt 3310 3) (some ⟨2⟩) (hunter 3310 3) (.new armory 3310 3)
      ∧ volley.settings.damageType ≠ .none
      ∧ (Entry.onCreature ⟨2⟩).asks = some (some ⟨2⟩)
      ∧ ∃ left, (volley.enter ⟨hunt 3310 3, []⟩ (.onCreature ⟨2⟩)).world.weapon? ⟨1⟩ = some left
        ∧ (Item.new armory 3310 3).OneLess armory left ∧ left.subtype armory = 2 := by
  have hwields : volley.Wields (hunt 3310 3) (some ⟨2⟩) (hunter 3310 3) (.new armory 3310 3) :=
    ⟨rfl, rfl, rfl, rfl, rfl, rfl, rfl, by decide⟩
  have hdamage : volley.settings.damageType ≠ .none := by decide
  obtain ⟨-, -, hcosts⟩ := volley.cast_costs_one_charge_iff ⟨hunt 3310 3, []⟩ hwields hdamage
    (show (Entry.onCreature ⟨2⟩).asks = some (some ⟨2⟩) from rfl)
  obtain ⟨left, hleft, -, hiff, -⟩ := hcosts rfl rfl
  have hone : (Item.new armory 3310 3).OneLess armory left := hiff.2 (.inl (by decide))
  exact ⟨hwields, hdamage, rfl, left, hleft, hone, hone.subtype.trans (by decide)⟩

/-- **One volley takes seven stars:** of a stack, the charges that it does not have are taken. -/
theorem volley_takes_whole_stack :
    volley.Wields (hunt 2399 7) (some ⟨2⟩) (hunter 2399 7) (.new armory 2399 7)
      ∧ volley.settings.damageType ≠ .none ∧ volley.settings.usesCharges = true
      ∧ (hunt 2399 7).rules.removesWeaponCharges = true
      ∧ (Item.new armory 2399 7).subtype armory = 7
      ∧ ((volley.enter ⟨hunt 2399 7, []⟩ (.onCreature ⟨2⟩)).world.weapon? ⟨1⟩).map
          (·.subtype armory) = some 0 := by
  have hwields : volley.Wields (hunt 2399 7) (some ⟨2⟩) (hunter 2399 7) (.new armory 2399 7) :=
    ⟨rfl, rfl, rfl, rfl, rfl, rfl, rfl, by decide⟩
  have hdamage : volley.settings.damageType ≠ .none := by decide
  have hleft : (volley.enter ⟨hunt 2399 7, []⟩ (.onCreature ⟨2⟩)).world.weapon? ⟨1⟩
      = some (worn (hunt 2399 7) (.new armory 2399 7)) :=
    hwields.weapon?_enter ⟨hunt 2399 7, []⟩ hdamage rfl
  have hnothing : (worn (hunt 2399 7) (.new armory 2399 7)).subtype armory = 0 := by decide
  exact ⟨hwields, hdamage, rfl, rfl, by decide, by rw [hleft, Option.map_some, hnothing]⟩

end Cast

end Realm
