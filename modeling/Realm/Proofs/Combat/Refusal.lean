/-
  Realm.Proofs.Combat.Refusal — what a refused attack costs.

  A cast on one creature asks first whether it may affect it, and does nothing where it may not.  Only a
  cast that finds out its change by itself asks later: by then the change is found out, and a weapon
  may have lost a charge to that.

  Main statements:
  * `mayAffect_eq_false_iff` — what a refusal is;
  * `enter_of_refused` — a refused cast with a given change does nothing at all;
  * `refusal_costs_charge` — all that a refused cast can cost.
-/
import Realm.Proofs.Combat.Resolution

namespace Realm

namespace Cast

variable (c : Cast)

/-! ## §1. Refusals. -/

/-- **An attack is refused:** the cast is aggressive, and is on its own caster or on a creature that its
    caster may not attack.  One that is not registered cannot be attacked either. -/
def Refuses (w : World) (target : CreatureId) : Prop :=
  c.settings.aggressive = true ∧ (c.caster = some target
    ∨ ∀ t, w.creature? target = some t → w.verdictOnAttack (c.caster? w) t ≠ .allowed)

theorem isAllowed_iff (v : Verdict) : v.isAllowed = true ↔ v = .allowed := by
  cases v <;> decide

/-- A cast may affect whom it does not refuse, and nobody else. -/
theorem mayAffect_eq_false_iff (w : World) (target : CreatureId) :
    c.mayAffect w target = false ↔ c.Refuses w target := by
  have hverdict : ((w.creature? target).any fun t =>
      (w.verdictOnAttack (c.caster? w) t).isAllowed) = false
        ↔ ∀ t, w.creature? target = some t → w.verdictOnAttack (c.caster? w) t ≠ .allowed := by
    cases w.creature? target with
    | none => simp
    | some t => simp [← isAllowed_iff]
  unfold mayAffect Refuses
  rw [Bool.or_eq_false_iff, Bool.and_eq_false_iff, hverdict]
  simp

/-- The creature that a cast is on, unless it is on a place. -/
def Entry.target? : Entry → Option CreatureId
  | .onCreature target | .healthOn target _ | .manaOn target _ | .conditionsOn target
  | .dispelOn target | .plainOn target => some target
  | .atPlace _ | .impactAt _ _ => none

/-! ## §2. What a refused cast does. -/

variable {s : Scene} {target : CreatureId}

/-- **A refused cast whose change is given** does nothing, and leaves no act. -/
theorem enter_of_refused {e : Entry} (htarget : e.target? = some target)
    (hgiven : e ≠ .onCreature target) (h : c.mayAffect s.world target = false) :
    c.enter s e = s := by
  have hno : ¬ c.mayAffect s.world target = true := Bool.eq_false_iff.1 h
  cases e with
  | onCreature other =>
    obtain rfl := Option.some.inj htarget
    exact absurd rfl hgiven
  | healthOn other bounds =>
    obtain rfl := Option.some.inj htarget
    exact if_neg hno
  | manaOn other bounds =>
    obtain rfl := Option.some.inj htarget
    exact if_neg hno
  | conditionsOn other =>
    obtain rfl := Option.some.inj htarget
    exact if_neg hno
  | dispelOn other =>
    obtain rfl := Option.some.inj htarget
    exact if_neg hno
  | plainOn other =>
    obtain rfl := Option.some.inj htarget
    exact if_neg hno
  | atPlace p => cases htarget
  | impactAt p impact => cases htarget

/-- Finding out the change bears on no refusal. -/
theorem mayAffect_span (s : Scene) (target : CreatureId) :
    c.mayAffect (c.span s (some target)).2.world target = c.mayAffect s.world target := by
  -- it changes the weapon of the caster at most, at which no refusal looks
  have hspan : s.world.Frame (fun _ => False) (fun _ => False) (c.Arms s.world) (fun _ => 0)
      (c.span s (some target)).2.world := c.frame_span s (some target)
  exact mayAffect_of_unmarked hspan target

/-- **A refused cast that finds out its change** has done so when it is refused. -/
theorem onCreature_of_refused (h : c.mayAffect s.world target = false) :
    c.onCreature s target
      = if c.settings.damageType = .none then s else (c.spanOrZero s (some target)).2 := by
  -- the question comes when the charge is gone already
  have hlater : c.mayAffect (c.spanOrZero s (some target)).2.world target = false :=
    (c.mayAffect_span s target).trans h
  have hno : ¬ c.mayAffect (c.spanOrZero s (some target)).2.world target = true :=
    Bool.eq_false_iff.1 hlater
  unfold onCreature
  split
  · rename_i hnone
    rw [if_pos hnone]
    exact if_neg (Bool.eq_false_iff.1 h)
  · rename_i hkind
    rw [if_neg hkind]
    dsimp only
    split
    · exact if_neg hno
    · exact if_neg hno

/-- **All that a refused attack costs.**  Nothing, for a cast on a creature with a given change.  And a
    cast that finds out its change costs its caster's weapon the charge that this takes, if it does
    damage and takes a charge; else nothing either. -/
theorem refusal_costs_charge (s : Scene) (target : CreatureId) (h : c.Refuses s.world target) :
    (∀ e : Entry, e.target? = some target → e ≠ .onCreature target → c.enter s e = s)
    ∧ (c.settings.damageType = .none ∨ c.charge? s.world (some target) = none →
      (c.onCreature s target).world = s.world)
    ∧ ∀ player weapon, c.settings.damageType ≠ .none →
      c.charge? s.world (some target) = some (player, weapon) →
        (c.onCreature s target).world
          = s.world.modifyCreature player.id fun p => { p with weapon := some (worn s.world weapon) } := by
  have hrefused := (c.mayAffect_eq_false_iff s.world target).2 h
  have hworld : (c.spanOrZero s (some target)).2.world = pay s.world (c.charge? s.world (some target)) :=
    c.span_world s (some target)
  refine ⟨fun e htarget hgiven => c.enter_of_refused htarget hgiven hrefused, fun hfree => ?_,
    fun player weapon hdamage hcharge => ?_⟩
  · rw [c.onCreature_of_refused hrefused]
    split
    · rfl
    · rename_i hdamage
      rw [hworld, hfree.resolve_left hdamage]
      rfl
  · rw [c.onCreature_of_refused hrefused, if_neg hdamage, hworld, hcharge]
    rfl

/-- Swords with three charges. -/
def chargedSwords : Catalogue :=
  ⟨({} : Std.ExtTreeMap UInt16 ItemType).insert 3310
    { id := 3310, name := "sword", charges := 3, weaponType := .sword, attack := 40 }⟩

/-- A world of one knight, who holds such a sword. -/
def fencing : World :=
  (World.new chargedSwords {} 0).addCreature
    { Creature.new ⟨1⟩ "knight" .player ⟨100, 100, 7⟩ with
      weapon := some (.new chargedSwords 3310 3) }

/-- The knight's whirl, which goes by the sword and takes its charges. -/
def whirl : Cast :=
  ⟨{ settings := { damageType := .physical, usesCharges := true }, formula := { kind := .skill } },
    some ⟨1⟩⟩

/-- The charges left on the knight's sword. -/
def chargesLeft (w : World) : Option UInt16 :=
  ((w.creature? ⟨1⟩).bind Creature.weapon).map (·.attributes.charges)

/-- The whirl is refused on the knight itself.  With a given change that costs nothing, and by itself it
    costs the sword a charge. -/
theorem refusal_costs_charge_whirl :
    whirl.Refuses fencing ⟨1⟩
      ∧ whirl.enter ⟨fencing, []⟩ (.healthOn ⟨1⟩ ⟨-9, -9⟩) = ⟨fencing, []⟩
      ∧ ∃ player sword, whirl.charge? fencing (some ⟨1⟩) = some (player, sword)
        ∧ (whirl.onCreature ⟨fencing, []⟩ ⟨1⟩).world
          = fencing.modifyCreature player.id fun p => { p with weapon := some (worn fencing sword) } := by
  have hrefuses : whirl.Refuses fencing ⟨1⟩ := ⟨rfl, .inl rfl⟩
  obtain ⟨hgiven, -, hcosts⟩ := whirl.refusal_costs_charge ⟨fencing, []⟩ ⟨1⟩ hrefuses
  have hcharge : (whirl.charge? fencing (some ⟨1⟩)).isSome = true := by decide
  obtain ⟨⟨player, sword⟩, hcharge⟩ := Option.isSome_iff_exists.1 hcharge
  exact ⟨hrefuses, hgiven _ rfl nofun, player, sword, hcharge,
    hcosts player sword (by decide) hcharge⟩

/-- **A refused whirl wears the sword:** its three charges are two when the attack has come to
    nothing. -/
theorem refused_whirl_wears :
    whirl.Refuses fencing ⟨1⟩
      ∧ chargesLeft fencing = some 3
      ∧ chargesLeft (whirl.onCreature ⟨fencing, []⟩ ⟨1⟩).world = some 2
      ∧ (whirl.onCreature ⟨fencing, []⟩ ⟨1⟩).world ≠ fencing := by
  have hbefore : chargesLeft fencing = some 3 := by decide
  have hafter : chargesLeft (whirl.onCreature ⟨fencing, []⟩ ⟨1⟩).world = some 2 := by decide
  refine ⟨⟨rfl, .inl rfl⟩, hbefore, hafter, fun hsame => ?_⟩
  rw [hsame, hbefore] at hafter
  cases hafter

end Cast

end Realm
