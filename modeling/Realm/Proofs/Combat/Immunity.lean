/-
  Realm.Proofs.Combat.Immunity — peaceful combats and immunity.

  A combat that is not aggressive affects whomever it reaches, its caster included.  It adds its conditions
  to each of them that is not immune, and takes away what it dispels.  It may reach a creature more than
  once; but what an impact makes of the kinds that a creature carries, it makes of them once and for all.

  Main statements:
  * `Fares.trans` — creatures that are reached several times fare as if they were reached once;
  * `course_enter` — how creatures fare in a peaceful cast, whichever way it is cast;
  * `enter_respects_immunity` — which kinds of conditions they carry afterwards.
-/
import Realm.Proofs.Combat.Resistance
import Realm.Proofs.Combat.Resolution
import Realm.Proofs.World.Conditions

namespace Realm

/-- Whether an impact brings the combat's conditions. -/
def Impact.endows : Impact → Bool
  | .health _ | .mana _ | .conditions | .plain => true
  | .dispel => false

/-- Whether an impact takes away what the combat dispels. -/
def Impact.purges : Impact → Bool
  | .health _ | .mana _ | .dispel | .plain => true
  | .conditions => false

namespace World

variable {w : World} {target : CreatureId} {d : Creature}

/-- The defence hurts nobody. -/
theorem creature?_blockHit (w : World) (target : CreatureId) (t : DamageType) (change : Int32)
    (id : CreatureId) : (w.blockHit target t change).2.creature? id = w.creature? id := by
  unfold blockHit
  split
  · rfl
  · split
    · rfl
    · split <;> rfl

theorem changeHealth_of_dead (hd : w.creature? target = some d) (hdead : d.vitals.isDead = true)
    (attacker : Option CreatureId) (t : DamageType) (change : Int32) :
    w.changeHealth attacker target t change = (false, w) := by
  unfold changeHealth
  rw [hd]
  exact if_pos hdead

theorem changeMana_of_dead (hd : w.creature? target = some d) (hdead : d.vitals.isDead = true)
    (attacker : Option CreatureId) (change : Int32) :
    w.changeMana attacker target change = (false, w) := by
  unfold changeMana
  rw [hd]
  exact if_pos hdead

theorem changeMana_of_living (hd : w.creature? target = some d) (hlives : d.vitals.isDead = false)
    (attacker : Option CreatureId) (change : Int32) :
    (w.changeMana attacker target change).1 = true
    ∧ (w.changeMana attacker target change).2.creature? target
        = some { d with vitals := (d.vitals.changeMana change).2 } := by
  have hchanged : (w.modifyCreature target fun d' =>
      { d' with vitals := (d.vitals.changeMana change).2 }).creature? target
        = some { d with vitals := (d.vitals.changeMana change).2 } := by
    rw [creature?_modifyCreature, if_pos rfl, hd]
    rfl
  unfold changeMana
  rw [hd]
  dsimp only
  rw [if_neg (Bool.eq_false_iff.1 hlives)]
  exact ⟨rfl, hchanged⟩

end World

namespace Cast

variable (c : Cast)

/-! ## §1. What an impact makes of a creature. -/

/-- Whether a combat brings a kind of conditions. -/
def brings (k : ConditionKind) : Bool := c.settings.conditions.any fun d => d.kind = k

/-- **Whether a creature carries a kind of conditions** once an impact has landed on it. -/
def carries (impact : Impact) (t : Creature) (k : ConditionKind) : Bool :=
  (t.hasCondition k || (impact.endows && c.brings k && !t.isImmune k))
    && !(impact.purges && c.settings.dispels = some k)

/-- **When an impact is sure to land:** one of health or mana on the living, and one of health where
    resistances do not absorb it. -/
def Lands (impact : Impact) (t : Creature) : Prop :=
  match impact with
  | .health _ => t.vitals.isDead = false ∧ ¬ t.vitals.resistances.Absorbs c.settings.damageType
  | .mana _ => t.vitals.isDead = false
  | .conditions | .dispel | .plain => True

/-- **How a creature fares:** if it was reached, the impact landed on it, or may have missed it; and
    otherwise it was spared. -/
structure Fares (impact : Impact) (reached : Prop) (t t' : Creature) : Prop where
  immunities : t'.immunities = t.immunities
  struck : reached → (∀ k, t'.hasCondition k = c.carries impact t k)
    ∨ ¬ c.Lands impact t ∧ t'.conditions = t.conditions
  spared : ¬ reached → t'.vitals = t.vitals ∧ t'.conditions = t.conditions

section

variable {c} {impact : Impact} {t t' t'' : Creature} {p q : Prop}

theorem hasCondition_congr (hsame : t'.conditions = t.conditions) (k : ConditionKind) :
    t'.hasCondition k = t.hasCondition k := by
  rw [Creature.hasCondition, hsame, Creature.hasCondition]

theorem isImmune_congr (himmunities : t'.immunities = t.immunities) (k : ConditionKind) :
    t'.isImmune k = t.isImmune k := by
  rw [Creature.isImmune, himmunities, Creature.isImmune]

/-- What an impact leaves hangs on the conditions and the immunities of a creature. -/
theorem carries_congr (himmunities : t'.immunities = t.immunities)
    (hsame : t'.conditions = t.conditions) (k : ConditionKind) :
    c.carries impact t' k = c.carries impact t k := by
  rw [carries, hasCondition_congr hsame, isImmune_congr himmunities, carries]

/-- **An impact that lands again** changes no more kinds. -/
theorem carries_again (himmunities : t'.immunities = t.immunities)
    (hlanded : ∀ k, t'.hasCondition k = c.carries impact t k) (k : ConditionKind) :
    c.carries impact t' k = c.carries impact t k := by
  rw [carries, hlanded, isImmune_congr himmunities, carries]
  -- of a kind that is brought and dispelled, both times nothing is left
  generalize (impact.endows && c.brings k && !t.isImmune k) = brought
  generalize (impact.purges && decide (c.settings.dispels = some k)) = purged
  cases t.hasCondition k <;> cases brought <;> cases purged <;> rfl

theorem Fares.refl (t : Creature) : c.Fares impact False t t := ⟨rfl, False.elim, fun _ => ⟨rfl, rfl⟩⟩

/-- However a creature fared, an impact would leave it with the same kinds. -/
theorem Fares.carries_eq (h : c.Fares impact p t t') (k : ConditionKind) :
    c.carries impact t' k = c.carries impact t k := by
  by_cases hp : p
  · rcases h.struck hp with hlanded | ⟨-, hsame⟩
    · exact carries_again h.immunities hlanded k
    · exact carries_congr h.immunities hsame k
  · exact carries_congr h.immunities (h.spared hp).2 k

/-- **Who is reached several times** fares as if reached once. -/
theorem Fares.trans (h : c.Fares impact p t t') (h' : c.Fares impact q t' t'') :
    c.Fares impact (p ∨ q) t t'' := by
  have hfirst : p → t''.conditions = t'.conditions →
      (∀ k, t''.hasCondition k = c.carries impact t k)
        ∨ ¬ c.Lands impact t ∧ t''.conditions = t.conditions := by
    intro hp hsame'
    rcases h.struck hp with hlanded | ⟨hmissed, hsame⟩
    · exact .inl fun k => (hasCondition_congr hsame' k).trans (hlanded k)
    · exact .inr ⟨hmissed, hsame'.trans hsame⟩
  refine ⟨h'.immunities.trans h.immunities, fun hreached => ?_, fun hspared => ?_⟩
  · by_cases hq : q
    · rcases h'.struck hq with hlanded' | ⟨hmissed', hsame'⟩
      · exact .inl fun k => (hlanded' k).trans (h.carries_eq k)
      · by_cases hp : p
        · exact hfirst hp hsame'
        · -- it missed a creature that is as it was
          obtain ⟨hvitals, hsame⟩ := h.spared hp
          have hlands : c.Lands impact t' = c.Lands impact t := by
            unfold Lands
            rw [hvitals]
          exact .inr ⟨hlands ▸ hmissed', hsame'.trans hsame⟩
    · exact hfirst (hreached.resolve_right hq) (h'.spared hq).2
  · obtain ⟨hp, hq⟩ := not_or.1 hspared
    exact ⟨(h'.spared hq).1.trans (h.spared hp).1, (h'.spared hq).2.trans (h.spared hp).2⟩

end

/-! ## §2. The course of a cast. -/

/-- How the creature of a name fares between two worlds. -/
def Course (impact : Impact) (reached : Prop) (id : CreatureId) (w w' : World) : Prop :=
  Option.Rel (c.Fares impact reached) (w.creature? id) (w'.creature? id)

section

variable {c} {impact : Impact} {id : CreatureId} {w w' w'' : World} {p q : Prop}

theorem Course.trans (h : c.Course impact p id w w') (h' : c.Course impact q id w' w'') :
    c.Course impact (p ∨ q) id w w'' :=
  rel_comp h h' fun _ _ _ hfirst hsecond => hfirst.trans hsecond

theorem Course.congr (h : c.Course impact p id w w') (hiff : p ↔ q) : c.Course impact q id w w' :=
  propext hiff ▸ h

/-- What spares a creature may follow, or go before. -/
theorem Course.trans_spared (h : c.Course impact p id w w') (h' : c.Course impact False id w' w'') :
    c.Course impact p id w w'' := (h.trans h').congr (or_iff_left not_false)

theorem Course.spared_trans (h : c.Course impact False id w w') (h' : c.Course impact p id w' w'') :
    c.Course impact p id w w'' := (h.trans h').congr (or_iff_right not_false)

/-- Those whom a frame does not hurt are spared. -/
theorem course_of_frame {hurt marked armed : CreatureId → Prop} {gain : Position → Nat}
    (h : w.Frame hurt marked armed gain w') (hno : ¬ hurt id) : c.Course impact False id w w' :=
  rel_imp (h.creature id) fun _ _ hwithin =>
    ⟨Creature.read_of_fixed hwithin.fixed Creature.immunities, False.elim, fun _ => hwithin.unhurt hno⟩

/-- A step that hurts nobody spares everyone, even if it lays a field on each tile. -/
theorem course_of_kept (h : c.Keeps (fun _ => False) (fun _ => 1) w w') :
    c.Course impact False id w w' := course_of_frame h not_false

theorem course_of_creatures (h : w'.creatures = w.creatures) : c.Course impact False id w w' := by
  rw [Course, World.creature?, World.creature?, h]
  exact rel_refl Fares.refl _

end

/-! ## §3. Conditions brought and taken away. -/

/-- A creature with the conditions of a combat. -/
def endowed (t : Creature) : Creature :=
  c.settings.conditions.foldl (fun t d => t.addCondition (ownedBy c.caster d)) t

/-- A creature rid of what a combat dispels. -/
def purged (t : Creature) : Creature :=
  match c.settings.dispels with
  | none => t
  | some kind => t.removeCondition kind

/-- **Which kinds a combat adds:** those that it brings and that the creature is not immune to. -/
theorem hasCondition_endowed (t : Creature) (k : ConditionKind) :
    (c.endowed t).hasCondition k = (t.hasCondition k || (c.brings k && !t.isImmune k)) := by
  unfold endowed brings
  induction c.settings.conditions generalizing t with
  | nil => simp
  | cons d ds ih =>
    have hkinds := Creature.kinds_addCondition t (ownedBy c.caster d)
    have hhead : (t.addCondition (ownedBy c.caster d)).hasCondition k
        = (t.hasCondition k || (decide (d.kind = k) && !t.isImmune k)) := by
      have hkind : (ownedBy c.caster d).kind = d.kind := rfl
      rw [Creature.hasCondition_eq, Creature.hasCondition_eq, hkinds, hkind]
      by_cases hsame : d.kind = k
      · subst hsame
        cases himmune : t.isImmune d.kind <;> by_cases hin : d.kind ∈ t.kinds <;> simp [hin]
      · have hother : k ≠ d.kind := Ne.symm hsame
        split <;> simp [hsame, hother]
    have himmune : (t.addCondition (ownedBy c.caster d)).isImmune k = t.isImmune k :=
      isImmune_congr (Creature.immunities_addCondition _ _) k
    rw [List.foldl_cons, ih, hhead, himmune, List.any_cons]
    cases t.hasCondition k <;> cases t.isImmune k <;> simp

theorem immunities_endowed (t : Creature) : (c.endowed t).immunities = t.immunities :=
  Creature.immunities_foldl_addCondition c.caster c.settings.conditions t

theorem hasCondition_purged (t : Creature) (k : ConditionKind) :
    (c.purged t).hasCondition k = (t.hasCondition k && !decide (c.settings.dispels = some k)) := by
  unfold purged
  cases c.settings.dispels with
  | none => simp
  | some kind =>
    dsimp only
    rw [Creature.hasCondition_eq, Creature.kinds_removeCondition, Creature.hasCondition_eq]
    by_cases hsame : kind = k
    · simp [hsame]
    · have hother : k ≠ kind := Ne.symm hsame
      simp [hsame, hother]

theorem immunities_purged (t : Creature) : (c.purged t).immunities = t.immunities := by
  unfold purged
  split <;> rfl

theorem creature?_addConditions (w : World) (target : CreatureId) :
    (c.addConditions w target).creature? target = (w.creature? target).map c.endowed := by
  rw [addConditions_eq_foldl, World.creature?_modifyCreature, if_pos rfl]
  rfl

theorem creature?_dispel (w : World) (target : CreatureId) :
    (c.dispel w target).creature? target = (w.creature? target).map c.purged := by
  unfold dispel purged
  cases c.settings.dispels with
  | none => exact Option.map_id'.symm
  | some kind =>
    dsimp only
    rw [World.creature?_modifyCreature, if_pos rfl]

/-! ## §4. Impacts. -/

section

variable {c} {impact : Impact} {id target : CreatureId} {w : World} {t t' : Creature}

/-- **An impact that lands** with conditions brings them, and takes away what the combat dispels. -/
theorem fares_landed (hendows : impact.endows = true) (hpurges : impact.purges = true)
    (himmunities : t'.immunities = t.immunities) (hsame : t'.conditions = t.conditions) :
    c.Fares impact True t (c.purged (c.endowed t')) where
  immunities := by rw [immunities_purged, immunities_endowed, himmunities]
  struck _ := by
    left
    intro k
    rw [hasCondition_purged, hasCondition_endowed, hasCondition_congr hsame,
      isImmune_congr himmunities, carries, hendows, hpurges]
    simp only [Bool.true_and]
  spared h := absurd trivial h

/-- An impact that misses. -/
theorem fares_missed (hmissed : ¬ c.Lands impact t) : c.Fares impact True t t :=
  ⟨rfl, fun _ => .inr ⟨hmissed, rfl⟩, fun _ => ⟨rfl, rfl⟩⟩

/-- What follows on a change of a creature's vitals, if it was made. -/
theorem rel_afterChange {changed : Bool × World} (hmade : changed.1 = true)
    (hendows : impact.endows = true) (hpurges : impact.purges = true)
    (hchanged : changed.2.creature? target = some t') (himmunities : t'.immunities = t.immunities)
    (hsame : t'.conditions = t.conditions) :
    Option.Rel (c.Fares impact True) (some t) ((c.afterChange target changed).creature? target) := by
  rw [afterChange, if_pos hmade, creature?_dispel, creature?_addConditions, hchanged]
  exact .some (fares_landed hendows hpurges himmunities hsame)

/-- What follows on a change that was not made. -/
theorem afterChange_of_unmade {w : World} : c.afterChange target (false, w) = w := if_neg nofun

/-- **An impact of health** lands on the living, unless it is absorbed. -/
theorem rel_applyHealth (bounds : Span) (ht : w.creature? target = some t) :
    Option.Rel (c.Fares (.health bounds) True) (some t)
      ((c.applyHealth w target bounds).creature? target) := by
  unfold applyHealth
  dsimp only
  -- dice change no creature
  have ht₁ : (w.roll bounds.min bounds.max).2.creature? target = some t := ht
  generalize (w.roll bounds.min bounds.max).1 = change
  generalize (w.roll bounds.min bounds.max).2 = w₁ at ht₁ ⊢
  cases hblocked : (w₁.blockHit target c.settings.damageType change).1.blocked with
  | true =>
    have habsorbs : t.vitals.resistances.Absorbs c.settings.damageType := by
      by_cases hloss : change < 0
      · exact (World.blocked_blockHit_iff ht₁ _ hloss).1 hblocked
      · rw [World.blockHit, if_pos (Int32.not_lt.1 hloss)] at hblocked
        cases hblocked
    rw [if_pos rfl, World.creature?_blockHit, ht₁]
    exact .some (fares_missed fun hlands => hlands.2 habsorbs)
  | false =>
    rw [if_neg nofun, World.blockHit_of_unblocked hblocked]
    dsimp only
    cases hdead : t.vitals.isDead with
    | true =>
      rw [World.changeHealth_of_dead ht₁ hdead, afterChange_of_unmade, ht₁]
      exact .some (fares_missed fun hlands => Bool.eq_false_iff.1 hlands.1 hdead)
    | false =>
      obtain ⟨hmade, hchanged⟩ := World.changeHealth_of_living ht₁ hdead c.caster
        c.settings.damageType (c.adjusted w₁ target change)
      exact rel_afterChange hmade rfl rfl hchanged rfl rfl

/-- **An impact of mana** lands on the living. -/
theorem rel_applyMana (bounds : Span) (ht : w.creature? target = some t) :
    Option.Rel (c.Fares (.mana bounds) True) (some t)
      ((c.applyMana w target bounds).creature? target) := by
  unfold applyMana
  dsimp only
  have ht₁ : (w.roll bounds.min bounds.max).2.creature? target = some t := ht
  generalize (w.roll bounds.min bounds.max).1 = change
  generalize (w.roll bounds.min bounds.max).2 = w₁ at ht₁ ⊢
  cases hdead : t.vitals.isDead with
  | true =>
    rw [World.changeMana_of_dead ht₁ hdead, afterChange_of_unmade, ht₁]
    exact .some (fares_missed fun hlands => Bool.eq_false_iff.1 hlands hdead)
  | false =>
    obtain ⟨hmade, hchanged⟩ := World.changeMana_of_living ht₁ hdead c.caster
      (c.adjusted w₁ target change)
    exact rel_afterChange hmade rfl rfl hchanged rfl rfl

end

/-! ### What spares everyone -/

section

variable {c} {impact : Impact} {id : CreatureId}

theorem course_blow (w : World) (target : CreatureId) :
    c.Course impact False id w (c.blow w target) := course_of_kept (c.keeps_blow w target)

theorem course_showOn (w : World) (target : CreatureId) :
    c.Course impact False id w (c.showOn w target) := course_of_kept (c.keeps_showOn w target)

theorem course_touchTile (s : Scene) (viewers : Nat) (p : Position) :
    c.Course impact False id s.world (c.touchTile s viewers p).world :=
  course_of_kept (c.keeps_touchTile s viewers (Nat.le_refl 1))

theorem course_afterTiles (w : World) (target : Position) :
    c.Course impact False id w (c.afterTiles w target) := course_of_kept (c.keeps_afterTiles w target)

theorem course_span (s : Scene) (target : Option CreatureId) :
    c.Course impact False id s.world (c.spanOrZero s target).2.world :=
  course_of_kept (c.keeps_span s target)

/-- **An impact** reaches the creature that it is done to. -/
theorem course_impactOn (w : World) (target : CreatureId) :
    c.Course impact (id = target) id w (c.impactOn w target impact) := by
  by_cases hid : id = target
  · subst hid
    refine Course.congr ?_ (iff_of_true trivial rfl)
    unfold Course
    cases ht : w.creature? id with
    | none =>
      -- nobody comes to be by an impact
      have hkept : c.Keeps (fun _ => True) (fun _ => 0) w (c.impactOn w id impact) :=
        c.keeps_impactOn trivial w impact
      have hnobody := isSome_eq_of_rel (hkept.creature id)
      rw [ht, Option.isSome_none, Option.isSome_eq_false_iff, Option.isNone_iff_eq_none] at hnobody
      rw [hnobody]
      exact .none
    | some t =>
      cases impact with
      | health bounds => exact rel_applyHealth bounds ht
      | mana bounds => exact rel_applyMana bounds ht
      | conditions =>
        show Option.Rel _ _ ((c.addConditions w id).creature? id)
        rw [creature?_addConditions, ht]
        refine .some ⟨c.immunities_endowed t, fun _ => .inl fun k => ?_, fun h => absurd trivial h⟩
        simp [hasCondition_endowed, carries, Impact.endows, Impact.purges]
      | dispel =>
        show Option.Rel _ _ ((c.dispel w id).creature? id)
        rw [creature?_dispel, ht]
        refine .some ⟨c.immunities_purged t, fun _ => .inl fun k => ?_, fun h => absurd trivial h⟩
        simp [hasCondition_purged, carries, Impact.endows, Impact.purges]
      | plain =>
        have hdone : Option.Rel (c.Fares .plain True) (w.creature? id)
            ((c.dispel (c.addConditions w id) id).creature? id) := by
          rw [creature?_dispel, creature?_addConditions, ht]
          exact .some (fares_landed rfl rfl rfl rfl)
        rw [← ht]
        exact Course.trans_spared hdone (course_blow _ id)
  · have hkept : c.Keeps (target = ·) (fun _ => 0) w (c.impactOn w target impact) :=
      c.keeps_impactOn (Eq.refl target) w impact
    exact (course_of_frame hkept (Ne.symm hid)).congr (iff_of_false not_false hid)

/-- So does an impact that is reported. -/
theorem course_report (s : Scene) (target : CreatureId) :
    c.Course impact (id = target) id s.world (c.report (c.apply s target impact) target).world := by
  rw [report_world]
  exact course_impactOn s.world target

end

/-! ## §5. Whom a cast reaches. -/

/-- **Whether a cast reaches a creature on a place:** it acts on the tile there, and takes that creature
    from it. -/
def Reaches (w : World) (id : CreatureId) (p : Position) : Prop :=
  c.actsOn w p = true ∧ ∃ t, w.tile? p = some t ∧ id ∈ c.takenFrom w p t

/-- **Whom a cast on a place takes:** the creatures that it picks from the tiles that it acts on. -/
def Takes (w : World) (target : Position) (id : CreatureId) : Prop :=
  ∃ p ∈ c.actedPlaces w target, ∃ t, w.tile? p = some t ∧ id ∈ c.takenFrom w p t

section

variable {c} {id : CreatureId} {hurt : CreatureId → Prop} {gain : Position → Nat} {w w' : World}

/-- Whom a cast reaches on a place hangs on the tile there, and on what no step changes. -/
theorem Keeps.reaches_iff (h : c.Keeps hurt gain w w') {p : Position}
    (htile : w'.tile? p = w.tile? p) : c.Reaches w' id p ↔ c.Reaches w id p := by
  unfold Reaches
  rw [c.actsOn_eq h htile, htile]
  simp only [h.takenFrom_eq]

/-- On one map, a cast takes the same creatures whatever it did to them meanwhile. -/
theorem Keeps.takes_iff (h : c.Keeps hurt gain w w') (hmap : w'.map = w.map) (target : Position) :
    c.Takes w' target id ↔ c.Takes w target id := by
  unfold Takes
  rw [c.actedPlaces_eq h hmap]
  simp only [World.tile?, hmap, h.takenFrom_eq]

/-- From the tiles that are new, a cast takes nobody. -/
theorem exists_reaches_cover_iff (w : World) (target : Position) :
    (∃ p ∈ (c.cover w target).1, c.Reaches (c.cover w target).2 id p) ↔ c.Takes w target id := by
  have hkept : c.Keeps (fun _ => False) (fun _ => 0) w (c.cover w target).2 := c.frame_cover w target
  obtain ⟨-, hcovered, -⟩ := c.cover_spec w target
  have htile : ∀ p ∈ (c.cover w target).1,
      (c.cover w target).2.tile? p = some ((w.tile? p).getD .placeholder) := by
    intro p hp
    exact (hcovered.tile p).trans (if_pos hp)
  unfold Takes actedPlaces
  constructor
  · rintro ⟨p, hp, hacts, t, ht, hid⟩
    obtain rfl := Option.some.inj ((htile p hp).symm.trans ht)
    rw [hkept.takenFrom_eq] at hid
    refine ⟨p, List.mem_filter.2 ⟨hp, hacts⟩, ?_⟩
    cases hbefore : w.tile? p with
    | none =>
      -- nobody stands on a placeholder
      rw [hbefore] at hid
      exact absurd (c.mem_of_mem_takenFrom hid) List.not_mem_nil
    | some t =>
      rw [hbefore] at hid
      exact ⟨t, rfl, hid⟩
  · rintro ⟨p, hp, t, ht, hid⟩
    obtain ⟨hp, hacts⟩ := List.mem_filter.1 hp
    refine ⟨p, hp, hacts, t, ?_, ?_⟩
    · rw [htile p hp, ht]
      rfl
    · rw [hkept.takenFrom_eq]
      exact hid

end

/-! ## §6. Peaceful casts on places. -/

section

variable {c} {impact : Impact} {id : CreatureId} (hpeaceful : c.settings.aggressive = false)

include hpeaceful

/-- A peaceful cast may affect everyone. -/
theorem mayAffect_of_peaceful (w : World) (target : CreatureId) : c.mayAffect w target = true := by
  rw [mayAffect, hpeaceful]
  rfl

theorem course_strike (s : Scene) (target : CreatureId) :
    c.Course impact (id = target) id s.world (c.strike impact s target).world := by
  rw [strike_eq, if_pos (mayAffect_of_peaceful hpeaceful s.world target), land]
  split
  · exact (course_report s target).trans_spared (course_blow _ target)
  · exact course_report s target

/-- **The creatures of a tile,** one after the other. -/
theorem course_foldl_strike (targets : List CreatureId) :
    ∀ s : Scene, c.Course impact (id ∈ targets) id s.world
      (targets.foldl (c.strike impact) s).world := by
  induction targets with
  | nil => exact fun s => (course_of_creatures rfl).congr (iff_of_false not_false List.not_mem_nil)
  | cons target targets ih =>
    exact fun s => ((course_strike hpeaceful s target).trans (ih _)).congr List.mem_cons.symm

theorem course_resolveTile (viewers : Nat) (s : Scene) (p : Position) :
    c.Course impact (c.Reaches s.world id p) id s.world
      (c.resolveTile impact viewers s p).world := by
  rw [resolveTile_eq]
  cases ht : s.world.tile? p with
  | none =>
    refine (course_of_creatures rfl).congr (iff_of_false not_false ?_)
    rintro ⟨-, t, hsome, -⟩
    rw [ht] at hsome
    cases hsome
  | some t =>
    dsimp only
    split
    · rename_i hacts
      have hreaches : id ∈ c.takenFrom s.world p t ↔ c.Reaches s.world id p := by
        constructor
        · exact fun hid => ⟨hacts, t, ht, hid⟩
        · rintro ⟨-, t', ht', hid⟩
          obtain rfl := Option.some.inj (ht.symm.trans ht')
          exact hid
      exact ((course_foldl_strike hpeaceful _ s).congr hreaches).trans_spared
        (course_touchTile _ viewers p)
    · rename_i hidle
      exact (course_of_creatures rfl).congr (iff_of_false not_false fun hreaches => hidle hreaches.1)

/-- **Tile by tile:** over places that are distinct, each tile is met as it was before the run. -/
theorem course_foldl_resolveTile (viewers : Nat) (places : List Position) :
    ∀ s : Scene, places.Nodup → (∀ p ∈ places, (s.world.tile? p).isSome = true) →
      c.Course impact (∃ p ∈ places, c.Reaches s.world id p) id s.world
        (places.foldl (c.resolveTile impact viewers) s).world := by
  induction places with
  | nil =>
    intro s _ _
    refine (course_of_creatures rfl).congr (iff_of_false not_false ?_)
    rintro ⟨p, hp, -⟩
    cases hp
  | cons p places ih =>
    intro s hnodup htiles
    obtain ⟨hnew, hnodup⟩ := List.nodup_cons.1 hnodup
    have hhead : c.Course impact (c.Reaches s.world id p) id s.world
        (c.resolveTile impact viewers s p).world := course_resolveTile hpeaceful viewers s p
    have hkept : c.Keeps (fun _ => True) (fun q => if q = p then 1 else 0) s.world
        (c.resolveTile impact viewers s p).world :=
      c.keeps_resolveTile impact viewers s (fun _ _ => trivial) fun _ => Nat.le_of_eq (if_pos rfl).symm
    rw [List.foldl_cons]
    generalize c.resolveTile impact viewers s p = s₁ at hhead hkept ⊢
    -- the tiles still to come are untouched, so the cast takes from them whom it took before
    have hsame : ∀ q ∈ places, s₁.world.tile? q = s.world.tile? q := by
      intro q hq
      have hother : q ≠ p := fun h => hnew (h ▸ hq)
      exact hkept.tile?_eq c (htiles q (List.mem_cons_of_mem p hq)) (if_neg hother)
    have hrest := ih s₁ hnodup fun q hq => by
      rw [hsame q hq]
      exact htiles q (List.mem_cons_of_mem p hq)
    refine (hhead.trans hrest).congr ?_
    rw [List.exists_mem_cons_iff]
    refine or_congr_right (exists_congr fun q => and_congr_right fun hq => ?_)
    exact hkept.reaches_iff (hsame q hq)

/-- **A peaceful impact on a place.** -/
theorem course_onPlace (s : Scene) (target : Position) :
    c.Course impact (c.Takes s.world target id) id s.world (c.onPlace s target impact).world := by
  obtain ⟨hnodup, -, hmap⟩ := c.cover_spec s.world target
  have hcovered : c.Course impact False id s.world (c.cover s.world target).2 := by
    rw [hmap]
    exact course_of_creatures rfl
  unfold onPlace
  dsimp only
  generalize (World.spectators _ _ _ _).length = viewers
  have hrun : c.Course impact (∃ p ∈ (c.cover s.world target).1, c.Reaches (c.cover s.world target).2 id p)
      id (c.cover s.world target).2 ((c.cover s.world target).1.foldl (c.resolveTile impact viewers)
        { s with world := (c.cover s.world target).2 }).world :=
    course_foldl_resolveTile hpeaceful viewers _ { s with world := (c.cover s.world target).2 } hnodup
      fun p hp => c.isSome_tile?_cover hp
  have htiles := hrun.congr (exists_reaches_cover_iff s.world target)
  exact (hcovered.spared_trans htiles).trans_spared (course_afterTiles _ target)

end

/-! ## §7. Ways to cast. -/

/-- The impact of a combat that works out its change by itself. -/
def ownImpact (bounds : Span) : Impact :=
  if c.settings.damageType = .none then .plain
  else if c.settings.damageType = .manaDrain then .mana bounds
  else .health bounds

/-- **The impact of a way to cast.** -/
def Entry.impact (c : Cast) (s : Scene) : Entry → Impact
  | .onCreature target => c.ownImpact (c.spanOrZero s (some target)).1
  | .atPlace _ => c.ownImpact (c.spanOrZero s none).1
  | .healthOn _ bounds => .health bounds
  | .manaOn _ bounds => .mana bounds
  | .conditionsOn _ => .conditions
  | .dispelOn _ => .dispel
  | .plainOn _ => .plain
  | .impactAt _ impact => impact

/-- **Whom a way to cast reaches:** the creature that it is on, or those that it takes from tiles. -/
def Entry.Reached (c : Cast) (w : World) (id : CreatureId) : Entry → Prop
  | .onCreature target | .healthOn target _ | .manaOn target _ | .conditionsOn target
  | .dispelOn target | .plainOn target => id = target
  | .atPlace target | .impactAt target _ => c.Takes w target id

section

variable {c} {id : CreatureId} (hpeaceful : c.settings.aggressive = false)

include hpeaceful

theorem course_onHealth (s : Scene) (target : CreatureId) (bounds : Span) :
    c.Course (.health bounds) (id = target) id s.world (c.onHealth s target bounds).world := by
  have happlied : c.Course (.health bounds) (id = target) id s.world
      (c.apply s target (.health bounds)).world := course_impactOn s.world target
  rw [onHealth, if_pos (mayAffect_of_peaceful hpeaceful s.world target)]
  exact happlied.trans_spared (course_showOn _ target)

theorem course_onMana (s : Scene) (target : CreatureId) (bounds : Span) :
    c.Course (.mana bounds) (id = target) id s.world (c.onMana s target bounds).world := by
  rw [onMana, if_pos (mayAffect_of_peaceful hpeaceful s.world target)]
  exact (course_report s target).trans_spared (course_showOn _ target)

theorem course_withBlow (s : Scene) (target : CreatureId) (impact : Impact) :
    c.Course impact (id = target) id s.world (c.withBlow s target impact).world := by
  have hshown : c.Course impact (id = target) id s.world
      (c.showOn (c.report (c.apply s target impact) target).world target) :=
    (course_report s target).trans_spared (course_showOn _ target)
  rw [withBlow, if_pos (mayAffect_of_peaceful hpeaceful s.world target)]
  exact hshown.trans_spared (course_blow _ target)

theorem course_onPlain (s : Scene) (target : CreatureId) :
    c.Course .plain (id = target) id s.world (c.onPlain s target).world := by
  have happlied : c.Course .plain (id = target) id s.world (c.apply s target .plain).world :=
    course_impactOn s.world target
  rw [onPlain, if_pos (mayAffect_of_peaceful hpeaceful s.world target)]
  cases ht : s.world.creature? target with
  | none =>
    -- the combat is shown to no one who is not registered
    by_cases hid : id = target
    · rw [hid, Course, ht]
      exact .none
    · exact (course_of_creatures rfl).congr (iff_of_false not_false hid)
  | some t =>
    dsimp only
    have hreported : c.Course .plain (id = target) id s.world (c.report
        (c.touchTile (c.apply s target .plain) (s.world.viewers t.position) t.position)
        target).world := by
      rw [report_world]
      exact happlied.trans_spared (course_touchTile _ _ t.position)
    exact hreported.trans_spared (course_showOn _ target)

theorem course_onCreature (s : Scene) (target : CreatureId) :
    c.Course (c.ownImpact (c.spanOrZero s (some target)).1) (id = target) id s.world
      (c.onCreature s target).world := by
  unfold onCreature
  split
  · rename_i hnone
    rw [ownImpact, if_pos hnone]
    exact course_onPlain hpeaceful s target
  · rename_i hdamage
    rw [ownImpact, if_neg hdamage]
    dsimp only
    split
    · exact (course_span s _).spared_trans (course_onMana hpeaceful _ target _)
    · exact (course_span s _).spared_trans (course_onHealth hpeaceful _ target _)

theorem course_atPlace (s : Scene) (target : Position) :
    c.Course (c.ownImpact (c.spanOrZero s none).1) (c.Takes s.world target id) id s.world
      (c.atPlace s target).world := by
  unfold atPlace
  split
  · rename_i hnone
    rw [ownImpact, if_pos hnone]
    exact course_onPlace hpeaceful s target
  · rename_i hdamage
    rw [ownImpact, if_neg hdamage]
    dsimp only
    -- finding out the change costs a charge, and whom the cast takes does not hang on that
    have hkept : c.Keeps (fun _ => False) (fun _ => 0) s.world (c.spanOrZero s none).2.world :=
      c.keeps_span s none
    have htakes : c.Takes (c.spanOrZero s none).2.world target id ↔ c.Takes s.world target id :=
      hkept.takes_iff (c.span_map s none) target
    exact (course_span s none).spared_trans ((course_onPlace hpeaceful _ target).congr htakes)

/-- **A peaceful cast,** whichever way it is cast. -/
theorem course_enter (s : Scene) (e : Entry) :
    c.Course (e.impact c s) (e.Reached c s.world id) id s.world (c.enter s e).world := by
  cases e with
  | onCreature target => exact course_onCreature hpeaceful s target
  | atPlace target => exact course_atPlace hpeaceful s target
  | healthOn target bounds => exact course_onHealth hpeaceful s target bounds
  | manaOn target bounds => exact course_onMana hpeaceful s target bounds
  | conditionsOn target => exact course_withBlow hpeaceful s target .conditions
  | dispelOn target => exact course_withBlow hpeaceful s target .dispel
  | plainOn target => exact course_onPlain hpeaceful s target
  | impactAt target impact => exact course_onPlace hpeaceful s target

/-- **Peaceful casts respect immunity,** their caster's included.  Take any world, any combat that is not
    aggressive, and any way to cast it.  Of a registered creature that the cast reaches, the kinds of
    conditions that it carries afterwards are those that it carried and those that the combat brings and
    that it is not immune to, less the one that the combat dispels, as far as the impact brings and
    dispels anything.  That holds if the impact is sure to land on it; else it may also have missed.  Of
    all others the conditions stay.  And no one comes to carry a kind that it is immune to. -/
theorem enter_respects_immunity (s : Scene) (e : Entry) {t : Creature}
    (ht : s.world.creature? id = some t) :
    ∃ t', (c.enter s e).world.creature? id = some t' ∧ t'.immunities = t.immunities
      ∧ (e.Reached c s.world id → c.Lands (e.impact c s) t →
        ∀ k, t'.hasCondition k = c.carries (e.impact c s) t k)
      ∧ (e.Reached c s.world id → (∀ k, t'.hasCondition k = c.carries (e.impact c s) t k)
        ∨ t'.conditions = t.conditions)
      ∧ (¬ e.Reached c s.world id → t'.conditions = t.conditions)
      ∧ ∀ k, t.isImmune k = true → t'.hasCondition k = true → t.hasCondition k = true := by
  obtain ⟨t', ht', hfares⟩ := exists_right_of_rel (course_enter hpeaceful s e) ht
  have hlanded : e.Reached c s.world id → (∀ k, t'.hasCondition k = c.carries (e.impact c s) t k)
      ∨ t'.conditions = t.conditions :=
    fun hreached => (hfares.struck hreached).imp_right And.right
  have hspared := fun hno => (hfares.spared hno).2
  refine ⟨t', ht', hfares.immunities, fun hreached hlands => ?_, hlanded, hspared,
    fun k himmune hcarried => ?_⟩
  · exact (hfares.struck hreached).resolve_right fun hmissed => hmissed.1 hlands
  · have hkept : t'.conditions = t.conditions → t.hasCondition k = true := fun hsame =>
      (hasCondition_congr hsame k).symm.trans hcarried
    by_cases hreached : e.Reached c s.world id
    · rcases hlanded hreached with hkinds | hsame
      · rw [hkinds, carries, himmune] at hcarried
        simp only [Bool.not_true, Bool.and_false, Bool.or_false, Bool.and_eq_true] at hcarried
        exact hcarried.1
      · exact hkept hsame
    · exact hkept (hspared hreached)

end

/-- A druid that no fire harms. -/
def hearth : World :=
  (World.new .empty {} 0).addCreature
    { Creature.new ⟨1⟩ "druid" .player ⟨100, 100, 7⟩ with immunities := [.fire] }

/-- The druid's ward: a fire, and haste. -/
def ward : Cast :=
  ⟨{ settings := { aggressive := false, conditions := [.new .fire 6000, .new .haste 6000] } }, some ⟨1⟩⟩

/-- Cast on the druid's tile, the ward gives it haste. -/
theorem enter_respects_immunity_hearth :
    ward.settings.aggressive = false
      ∧ (∃ t, hearth.creature? ⟨1⟩ = some t ∧ t.isImmune .fire = true)
      ∧ (Entry.impactAt ⟨100, 100, 7⟩ .conditions).Reached ward hearth ⟨1⟩
      ∧ ∃ t', (ward.enter ⟨hearth, []⟩ (.impactAt ⟨100, 100, 7⟩ .conditions)).world.creature? ⟨1⟩
          = some t' ∧ t'.hasCondition .haste = true ∧ t'.hasCondition .fire = false := by
  have hdruid : hearth.creature? ⟨1⟩
      = some { Creature.new ⟨1⟩ "druid" .player ⟨100, 100, 7⟩ with immunities := [.fire] } :=
    (World.creature?_addCreature _ _ _).trans (if_pos rfl)
  have hacted : (⟨100, 100, 7⟩ : Position) ∈ ward.actedPlaces hearth ⟨100, 100, 7⟩ := by decide
  have hplace : (hearth.tile? ⟨100, 100, 7⟩).map
      (fun tile => ward.takenFrom hearth ⟨100, 100, 7⟩ tile) = some [⟨1⟩] := by decide
  obtain ⟨tile, htile, htaken⟩ := Option.map_eq_some_iff.1 hplace
  have hreached : (Entry.impactAt ⟨100, 100, 7⟩ .conditions).Reached ward hearth ⟨1⟩ :=
    ⟨_, hacted, tile, htile, htaken ▸ List.mem_singleton_self _⟩
  obtain ⟨t', ht', -, hkinds, -⟩ := enter_respects_immunity (c := ward) rfl ⟨hearth, []⟩
    (.impactAt ⟨100, 100, 7⟩ .conditions) hdruid
  have hcarries := hkinds hreached trivial
  exact ⟨rfl, ⟨_, hdruid, rfl⟩, hreached, t', ht', (hcarries .haste).trans (by decide),
    (hcarries .fire).trans (by decide)⟩

/-- **Nobody overrides its own immunity:** the druid casts its ward on itself, and is not on fire. -/
theorem immune_druid_refuses_ward :
    ward.settings.aggressive = false ∧ ward.caster = some ⟨1⟩
      ∧ ward.settings.conditions.all (fun d => d.ticks ≠ 0) = true ∧ ward.brings .fire = true
      ∧ (hearth.creature? ⟨1⟩).map (fun t => (t.isImmune .fire, t.conditions)) = some (true, [])
      ∧ ((ward.enter ⟨hearth, []⟩ (.conditionsOn ⟨1⟩)).world.creature? ⟨1⟩).map
        (fun t => t.hasCondition .fire) = some false := by
  decide

end Cast

end Realm
