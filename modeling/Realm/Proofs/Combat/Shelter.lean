/-
  Realm.Proofs.Combat.Shelter — what protection zones protect from.

  An aggressive cast on a place acts on no tile of a protection zone, unless its caster ignores
  protection; so whoever stands in such zones only is spared by all casts on places.  A cast on one
  creature never looks at the zone: it spares all but its target, and the target too where the attack is
  refused, but for no zone's sake.

  Main statements:
  * `not_covers_of_sheltered` — no aggressive cast covers a sheltered creature;
  * `keeps_aimed` — a cast on one creature hurts nobody else;
  * `enter_spares_sheltered` — whom zones protect, and from which casts.
-/
import Realm.Proofs.Combat.Refusal

namespace Realm

namespace World

/-! ## §1. Shelter. -/

/-- **A sheltered creature:** all the tiles that list it lie in protection zones. -/
def Sheltered (w : World) (id : CreatureId) : Prop :=
  ∀ p t, w.tile? p = some t → id ∈ t.creatures → t.flags.protectionZone = true

/-- Where creatures and tiles agree, that is a matter of the creature's own place. -/
theorem Consistent.sheltered_iff {w : World} (h : w.Consistent) {id : CreatureId} {c : Creature}
    (hc : w.creature? id = some c) :
    w.Sheltered id ↔ (w.tile? c.position).any (·.flags.protectionZone) = true := by
  obtain ⟨t, ht, hid⟩ := (w.mem_standing_iff_exists c.position id).1
    ((h.mem_standing_iff hc c.position).2 rfl)
  rw [ht, Option.any_some]
  constructor
  · exact fun hsheltered => hsheltered c.position t ht hid
  · intro hzone p t' ht' hid'
    -- it stands nowhere else
    have hplace := (h.mem_standing_iff hc p).1 ((w.mem_standing_iff_exists p id).2 ⟨t', ht', hid'⟩)
    obtain rfl := Option.some.inj (ht.symm.trans (hplace ▸ ht'))
    exact hzone

/-- **A protection zone** is closed to aggressive casts, but for those of casters that ignore it. -/
theorem verdictOnTile_of_protectionZone {w : World} {caster : Option Creature} {t : Tile}
    (hzone : t.flags.protectionZone = true)
    (hbound : ∀ a, caster = some a → a.has (·.ignoresProtection) = false) (p : Position) :
    (w.verdictOnTile caster p t true).isAllowed = false := by
  unfold verdictOnTile
  rw [hzone]
  dsimp only
  split
  · rfl
  · cases caster with
    | none => rfl
    | some a =>
      dsimp only
      rw [hbound a rfl]
      split
      · rfl
      · split <;> rfl

/-- What a change leaves of those that it may not hurt. -/
theorem Frame.condition_of_unhurt {hurt marked armed : CreatureId → Prop} {gain : Position → Nat}
    {w w' : World} (h : Frame hurt marked armed gain w w') {id : CreatureId} (hno : ¬ hurt id) :
    (w'.creature? id).map (fun c => (c.vitals, c.conditions))
      = (w.creature? id).map fun c => (c.vitals, c.conditions) :=
  map_eq_of_rel (h.creature id) fun _ _ hwithin =>
    Prod.ext (hwithin.unhurt hno).1 (hwithin.unhurt hno).2

end World

namespace Cast

variable (c : Cast)

/-! ## §2. Casts on places. -/

/-- **No aggressive cast covers a sheltered creature,** unless its caster ignores protection. -/
theorem not_covers_of_sheltered {w : World} {id : CreatureId} (h : w.Sheltered id)
    (haggressive : c.settings.aggressive = true)
    (hbound : ∀ a, c.caster? w = some a → a.has (·.ignoresProtection) = false) (target : Position) :
    ¬ c.Covers w target id := by
  rintro ⟨p, hp, t, ht, hid⟩
  obtain ⟨hcovered, hacts⟩ := List.mem_filter.1 hp
  obtain ⟨-, hcover, hworld⟩ := c.cover_spec w target
  -- making sure of tiles leaves the tile on which the creature stands
  have hsame : (c.cover w target).2.tile? p = some t := by
    show (c.cover w target).2.map.tile? p = _
    rw [hcover.tile, if_pos hcovered]
    show some ((w.tile? p).getD _) = _
    rw [ht]
    rfl
  have hcaster : c.caster? (c.cover w target).2 = c.caster? w := by
    rw [hworld]
    rfl
  have hclosed := World.verdictOnTile_of_protectionZone (w := (c.cover w target).2) (h p t ht hid)
    hbound p
  rw [actsOn, hsame, Option.any_some, hcaster, haggressive, hclosed] at hacts
  cases hacts

/-! ## §3. Casts on creatures. -/

/-- **A cast on one creature** may hurt that one only, and leaves one item on its tile at most. -/
theorem keeps_aimed {hurt : CreatureId → Prop} {target : CreatureId} (hhurt : hurt target) (s : Scene)
    {e : Entry} (h : e.target? = some target) :
    c.Keeps hurt (fun _ => 1) s.world (c.enter s e).world := by
  cases e with
  | onCreature other =>
    obtain rfl := Option.some.inj h
    exact c.keeps_onCreature hhurt s fun _ _ _ => Nat.le_refl 1
  | healthOn other bounds =>
    obtain rfl := Option.some.inj h
    exact c.keeps_onHealth hhurt s bounds
  | manaOn other bounds =>
    obtain rfl := Option.some.inj h
    exact c.keeps_onMana hhurt s bounds
  | conditionsOn other =>
    obtain rfl := Option.some.inj h
    exact c.keeps_withBlow hhurt s .conditions
  | dispelOn other =>
    obtain rfl := Option.some.inj h
    exact c.keeps_withBlow hhurt s .dispel
  | plainOn other =>
    obtain rfl := Option.some.inj h
    exact c.keeps_onPlain hhurt s fun _ _ => Nat.le_refl 1
  | atPlace p => cases h
  | impactAt p impact => cases h

/-- A refused cast hurts nobody. -/
theorem frame_of_refused (s : Scene) {e : Entry} {target : CreatureId}
    (htarget : e.target? = some target) (h : c.Refuses s.world target) :
    s.world.Frame (fun _ => False) (fun _ => False) (c.Arms s.world) (fun _ => 0)
      (c.enter s e).world := by
  have hrefused := (c.mayAffect_eq_false_iff s.world target).2 h
  -- with a given change the cast does nothing, and by itself it finds out its change
  by_cases hgiven : e = .onCreature target
  · rw [hgiven]
    show World.Frame _ _ _ _ _ (c.onCreature s target).world
    rw [c.onCreature_of_refused hrefused]
    split
    · exact .refl _
    · exact c.frame_span s (some target)
  · rw [c.enter_of_refused htarget hgiven hrefused]
    exact .refl _

/-! ## §4. Zones. -/

/-- **Whom protection zones protect.**  An aggressive cast of anyone who does not ignore protection
    leaves the health, the mana and the conditions of a sheltered creature as they are, whichever way it
    is cast, unless it is aimed at that very creature and the attack is not refused. -/
theorem enter_spares_sheltered (s : Scene) (e : Entry) (id : CreatureId)
    (haggressive : c.settings.aggressive = true)
    (hbound : ∀ a, c.caster? s.world = some a → a.has (·.ignoresProtection) = false)
    (hsheltered : s.world.Sheltered id) (haim : e.target? = some id → c.Refuses s.world id) :
    ((c.enter s e).world.creature? id).map (fun t => (t.vitals, t.conditions))
      = (s.world.creature? id).map fun t => (t.vitals, t.conditions) := by
  have hclosed := c.not_covers_of_sheltered hsheltered haggressive hbound
  cases htarget : e.target? with
  | some target =>
    by_cases hid : target = id
    · -- aimed at the creature itself, and refused
      have hrefused := c.frame_of_refused s htarget (hid ▸ haim (hid ▸ htarget))
      exact hrefused.condition_of_unhurt not_false
    · -- aimed at another one
      have hothers : c.Keeps (target = ·) (fun _ => 1) s.world (c.enter s e).world := by
        refine c.keeps_aimed ?_ s htarget
        exact Eq.refl target
      exact World.Frame.condition_of_unhurt hothers hid
  | none =>
    cases e with
    | atPlace p => exact World.Frame.condition_of_unhurt (c.keeps_atPlace s p) (hclosed p)
    | impactAt p impact =>
      exact World.Frame.condition_of_unhurt (c.keeps_onPlace s p impact) (hclosed p)
    | _ => cases htarget

/-- A knight before a protection zone, in which a druid stands. -/
def sanctuary : World :=
  (((World.new .empty {} 0).addTile ⟨101, 100, 7⟩ { protectionZone := true }).addCreature
    (.new ⟨1⟩ "knight" .player ⟨100, 100, 7⟩)).addCreature (.new ⟨2⟩ "druid" .player ⟨101, 100, 7⟩)

/-- The knight's attacks, which hurt and curse. -/
def assault : Cast :=
  ⟨{ settings := { damageType := .physical, conditions := [.new .cursed 6000] } }, some ⟨1⟩⟩

/-- The druid is spared by an assault on its tile. -/
theorem enter_spares_sheltered_druid :
    assault.settings.aggressive = true
      ∧ (∀ a, assault.caster? sanctuary = some a → a.has (·.ignoresProtection) = false)
      ∧ sanctuary.Sheltered ⟨2⟩
      ∧ ((assault.enter ⟨sanctuary, []⟩ (.impactAt ⟨101, 100, 7⟩ (.health ⟨-20, -20⟩))).world.creature?
        ⟨2⟩).map (fun t => (t.vitals, t.conditions)) = some (.full 150 0, []) := by
  have hconsistent : sanctuary.Consistent :=
    (((World.consistent_new _ _ _).addTile _ _).addCreature _).addCreature _
  have hdruid : sanctuary.creature? ⟨2⟩ = some (.new ⟨2⟩ "druid" .player ⟨101, 100, 7⟩) :=
    (World.creature?_addCreature _ _ _).trans (if_pos rfl)
  have hsheltered : sanctuary.Sheltered ⟨2⟩ := (hconsistent.sheltered_iff hdruid).2 (by decide)
  have hbound : ∀ a, assault.caster? sanctuary = some a → a.has (·.ignoresProtection) = false := by
    have hknight : (assault.caster? sanctuary).all fun a => !a.has (·.ignoresProtection) := by decide
    intro a ha
    rw [ha, Option.all_some] at hknight
    simpa using hknight
  have hspared := enter_spares_sheltered assault ⟨sanctuary, []⟩
    (.impactAt ⟨101, 100, 7⟩ (.health ⟨-20, -20⟩)) ⟨2⟩ rfl hbound hsheltered nofun
  refine ⟨rfl, hbound, hsheltered, hspared.trans ?_⟩
  show (sanctuary.creature? ⟨2⟩).map _ = _
  rw [hdruid]
  rfl

/-- **No zone protects from a cast on its creature:** the knight strikes the druid within the zone, and
    the druid is hurt and cursed. -/
theorem druid_struck_in_sanctuary :
    assault.settings.aggressive = true
      ∧ (assault.caster? sanctuary).all (fun a => !a.has (·.ignoresProtection)) = true
      ∧ ((sanctuary.creature? ⟨2⟩).bind fun t => sanctuary.tile? t.position).any
        (fun t => t.flags.protectionZone && t.creatures.contains ⟨2⟩) = true
      ∧ (sanctuary.creature? ⟨2⟩).map (·.vitals.health) = some 150
      ∧ ((assault.enter ⟨sanctuary, []⟩ (.healthOn ⟨2⟩ ⟨-20, -20⟩)).world.creature? ⟨2⟩).map
        (fun t => (t.vitals.health, t.conditions.map Condition.kind)) = some (140, [.cursed]) := by
  decide

end Cast

end Realm
