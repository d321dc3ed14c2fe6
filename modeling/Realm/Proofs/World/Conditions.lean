/-
  Realm.Proofs.World.Conditions — conditions in the course of time.

  Conditions come to a creature by hand, or through combats that may be its own; they leave it by hand,
  when they are dispelled, and when they run out.  All that comes is added the same way, and all that goes
  takes whole conditions away, so a creature that starts without conditions never carries two of a kind.

  Main statements:
  * `Cast.addConditions_eq_foldl` — the conditions of a combat are added one by one, caster or not;
  * `Cast.Change.tends` — no single change of a cast makes a creature untidy;
  * `one_condition_per_kind` — what creatures carry in the course of a run, and how it is refreshed.
-/
import Realm.Proofs.Condition.Kinds
import Realm.Proofs.World.Ledger

namespace Realm

/-! ## §1. What is added. -/

/-- **A combat's conditions are added one by one.**  That its caster is asked for no immunity makes no
    difference: whoever is immune to a condition refuses it anyway. -/
theorem Cast.addConditions_eq_foldl (c : Cast) (w : World) (target : CreatureId) :
    c.addConditions w target = w.modifyCreature target fun t =>
      c.settings.conditions.foldl (fun t d => t.addCondition (ownedBy c.caster d)) t := by
  unfold addConditions
  congr 1
  funext t
  congr 1
  funext t d
  split
  · rfl
  · rename_i hrefused
    have himmune : t.isImmune d.kind = true := by
      rw [not_or, Bool.not_eq_true, Bool.not_eq_false'] at hrefused
      exact hrefused.2
    exact (Creature.addCondition_of_immune (d := ownedBy c.caster d) himmune).symm

namespace Creature

theorem immunities_foldl_addCondition (owner : Option CreatureId) (ds : List Condition) :
    ∀ t : Creature, (ds.foldl (fun t d => t.addCondition (Cast.ownedBy owner d)) t).immunities
      = t.immunities := by
  induction ds with
  | nil => exact fun t => rfl
  | cons d ds ih =>
    intro t
    rw [List.foldl_cons, ih, immunities_addCondition]

theorem Tidy.foldl_addCondition (owner : Option CreatureId) (ds : List Condition) :
    ∀ {t : Creature}, t.Tidy →
      (ds.foldl (fun t d => t.addCondition (Cast.ownedBy owner d)) t).Tidy := by
  induction ds with
  | nil => exact fun h => h
  | cons d ds ih => exact fun h => ih (h.addCondition _)

/-- **Tidiness is handed on** from a creature to what becomes of it. -/
structure Bequeaths (t t' : Creature) : Prop where
  immunities : t'.immunities = t.immunities
  tidy : t.Tidy → t'.Tidy

theorem Bequeaths.refl (t : Creature) : Bequeaths t t := ⟨rfl, fun h => h⟩

theorem Bequeaths.trans {t t' t'' : Creature} (h : Bequeaths t t') (h' : Bequeaths t' t'') :
    Bequeaths t t'' := ⟨h'.immunities.trans h.immunities, fun htidy => h'.tidy (h.tidy htidy)⟩

theorem bequeaths_of_sublist {t t' : Creature} (himmunities : t'.immunities = t.immunities)
    (hkinds : t'.kinds.Sublist t.kinds) : Bequeaths t t' :=
  ⟨himmunities, fun h => h.of_sublist himmunities hkinds⟩

/-- Conditions that are left alone stay tidy. -/
theorem bequeaths_of_same {t t' : Creature} (himmunities : t'.immunities = t.immunities)
    (hsame : t'.conditions = t.conditions) : Bequeaths t t' :=
  bequeaths_of_sublist himmunities (by rw [kinds, hsame]; exact .refl _)

theorem bequeaths_addCondition (t : Creature) (d : Condition) : Bequeaths t (t.addCondition d) :=
  ⟨immunities_addCondition t d, fun h => h.addCondition d⟩

theorem bequeaths_removeCondition (t : Creature) (k : ConditionKind) :
    Bequeaths t (t.removeCondition k) := ⟨rfl, fun h => h.removeCondition k⟩

/-- **Time takes conditions away,** and changes the kind of none. -/
theorem kinds_creatureAfter (time : UInt32) (t : Creature) :
    (World.creatureAfter time t).kinds.Sublist t.kinds := by
  have hkind : ∀ d : Condition, (d.advance time).2.kind = d.kind := by
    intro d
    unfold Condition.advance
    split <;> rfl
  have hkinds : (t.conditions.map fun d => (d.advance time).2).map Condition.kind = t.kinds := by
    rw [kinds, List.map_map]
    exact List.map_congr_left fun d _ => hkind d
  rw [← hkinds]
  exact List.filter_sublist.map Condition.kind

end Creature

namespace World

/-! ## §2. Worlds that hand tidiness on. -/

/-- **Creatures tend to tidiness** between two worlds: each that was tidy still is. -/
def Tends (w w' : World) : Prop :=
  ∀ id, Option.Rel Creature.Bequeaths (w.creature? id) (w'.creature? id)

namespace Tends

variable {w w' w'' : World}

theorem of_creatures (h : w'.creatures = w.creatures) : Tends w w' := by
  intro id
  rw [creature?, creature?, h]
  exact rel_refl Creature.Bequeaths.refl _

theorem refl (w : World) : Tends w w := of_creatures rfl

theorem trans (h : Tends w w') (h' : Tends w' w'') : Tends w w'' := fun id =>
  rel_comp (h id) (h' id) fun _ _ _ hfirst hsecond => hfirst.trans hsecond

/-- A change within a frame that hurts nobody. -/
theorem of_frame {marked armed : CreatureId → Prop} {gain : Position → Nat}
    (h : Frame (fun _ => False) marked armed gain w w') : Tends w w' := fun id =>
  rel_imp (h.creature id) fun _ _ hwithin => Creature.bequeaths_of_same
    (Creature.read_of_fixed hwithin.fixed Creature.immunities) (hwithin.unhurt not_false).2

/-- A change of one creature. -/
theorem of_modifyCreature (id : CreatureId) {f : Creature → Creature}
    (hf : ∀ t, Creature.Bequeaths t (f t)) : Tends w (w.modifyCreature id f) := by
  intro id'
  rw [creature?_modifyCreature]
  cases w.creature? id' with
  | none =>
    rw [Option.map_none, ite_self]
    exact .none
  | some t =>
    split
    · exact .some (hf t)
    · exact .some (.refl t)

end Tends

/-- New vitals leave conditions alone. -/
theorem tends_setVitals (w : World) (id : CreatureId) (vitals : Vitals) :
    Tends w (w.modifyCreature id fun t => { t with vitals }) :=
  .of_modifyCreature id fun _ => Creature.bequeaths_of_same rfl rfl

theorem tends_changeHealth (w : World) (attacker : Option CreatureId) (target : CreatureId)
    (t : DamageType) (change : Int32) : Tends w (w.changeHealth attacker target t change).2 := by
  unfold changeHealth
  split
  · exact .refl w
  · rename_i d _
    split
    · exact .refl w
    · refine (w.tends_setVitals target (d.vitals.changeHealth t change).2).trans (.of_creatures ?_)
      dsimp only
      split <;> rfl

theorem tends_changeMana (w : World) (attacker : Option CreatureId) (target : CreatureId)
    (change : Int32) : Tends w (w.changeMana attacker target change).2 := by
  unfold changeMana
  split
  · exact .refl w
  · rename_i d _
    split
    · exact .refl w
    · exact (w.tends_setVitals target (d.vitals.changeMana change).2).trans (.of_creatures rfl)

end World

/-- **No single change of a cast** makes a creature untidy. -/
theorem Cast.Change.tends {c : Cast} {wears : Prop} {w w' : World} (h : c.Change wears w w') :
    w.Tends w' := by
  cases h with
  | rolled min max => exact .of_creatures rfl
  | shown e _ => exact .of_creatures rfl
  | health target change => exact w.tends_changeHealth _ target _ change
  | mana target change => exact w.tends_changeMana _ target change
  | conditions target =>
    rw [c.addConditions_eq_foldl]
    exact .of_modifyCreature target fun t =>
      ⟨Creature.immunities_foldl_addCondition _ _ t, fun h => h.foldl_addCondition _ _⟩
  | dispelled target =>
    unfold dispel
    split
    · exact .refl w
    · exact .of_modifyCreature target fun t => t.bequeaths_removeCondition _
  | attacked caster target _ _ =>
    have hframe : w.Frame (fun _ => False) (fun _ => True) (fun _ => False) (fun _ => 0)
        (w.attackedCreature caster target) :=
      World.frame_attackedCreature w caster target fun _ _ _ _ => trivial
    exact .of_frame hframe
  | fight id lock =>
    have hframe : w.Frame (fun _ => False) (fun _ => True) (fun _ => False) (fun _ => 0)
        (w.extendFight id w.rules.fightDuration lock) :=
      World.frame_extendFight w id _ lock fun _ => trivial
    exact .of_frame hframe
  | worn caster weapon _ _ =>
    exact .of_modifyCreature caster.id fun t => Creature.bequeaths_of_same rfl rfl
  | field p =>
    have hkept : c.Keeps (fun _ => False) (fun _ => 1) w (c.layField w p) :=
      c.frame_layField w (Nat.le_refl 1)
    exact .of_frame hkept
  | covered target =>
    obtain ⟨-, -, hmap⟩ := c.cover_spec w target
    rw [hmap]
    exact .of_creatures rfl

namespace World

/-- No stretch of time makes a creature untidy. -/
theorem tends_tick (w : World) (time : UInt32) : w.Tends (w.tick time) := by
  intro id
  rw [creature?_tick]
  cases w.creature? id with
  | none => exact .none
  | some t =>
    have hafter : Creature.Bequeaths t (creatureAfter time t) :=
      Creature.bequeaths_of_sublist rfl (Creature.kinds_creatureAfter time t)
    refine .some ?_
    unfold afterTime
    split
    · -- the end of a fight leaves conditions alone
      exact hafter.trans (Creature.bequeaths_of_same rfl rfl)
    · exact hafter

/-! ## §3. Runs. -/

/-- What may befall creatures: conditions are given to them and taken from them by hand, combats are cast,
    and time passes. -/
inductive Fate
  | given (id : CreatureId) (d : Condition)
  | cured (id : CreatureId) (k : ConditionKind)
  | round (r : Round)

/-- A world once something befell its creatures. -/
def undergo (w : World) : Fate → World
  | .given id d => w.modifyCreature id (·.addCondition d)
  | .cured id k => w.modifyCreature id (·.removeCondition k)
  | .round r => w.take r

/-- A world after fates, one after the other. -/
def undergoAll (w : World) (fates : List Fate) : World := fates.foldl undergo w

theorem tends_take (w : World) (r : Round) : w.Tends (w.take r) :=
  take_induction (P := fun v => w.Tends v) (fun _ _ _ hchange h => h.trans hchange.tends)
    (fun v time h => h.trans (v.tends_tick time)) w r (.refl w)

theorem tends_undergo (w : World) (fate : Fate) : w.Tends (w.undergo fate) := by
  cases fate with
  | given id d => exact .of_modifyCreature id fun t => t.bequeaths_addCondition d
  | cured id k => exact .of_modifyCreature id fun t => t.bequeaths_removeCondition k
  | round r => exact w.tends_take r

/-- **No run makes a creature untidy.** -/
theorem tends_undergoAll (w : World) (fates : List Fate) : w.Tends (w.undergoAll fates) := by
  induction fates generalizing w with
  | nil => exact .refl w
  | cons fate fates ih => exact (w.tends_undergo fate).trans (ih (w.undergo fate))

/-- **One condition of a kind, and refreshes only strengthen.**  Whatever befalls a creature that starts
    without conditions, it is registered all along, and never carries two conditions of one kind nor one
    that it is immune to.  If a creature that is not immune carries a condition of the kind that is added,
    this one becomes the join of the two: the longer lifetime, the greater damage either way, the shorter
    interval, and the newer owner if there is one; and all others stay.  If it carries none, then both
    orders of adding two of a kind leave one in the end, with the same lifetime, damage and interval. -/
theorem one_condition_per_kind :
    (∀ (w : World) (id : CreatureId) (t : Creature), w.creature? id = some t → t.conditions = [] →
      ∀ fates, ∃ t', (w.undergoAll fates).creature? id = some t'
        ∧ t'.immunities = t.immunities ∧ (t'.conditions.map Condition.kind).Nodup
        ∧ ∀ d ∈ t'.conditions, t'.isImmune d.kind = false)
    ∧ (∀ (t : Creature) (c d : Condition), (t.conditions.map Condition.kind).Nodup →
        t.isImmune d.kind = false → c ∈ t.conditions → c.kind = d.kind → c.Proper → d.Proper →
        ∃ before e after, t.conditions = before ++ c :: after
          ∧ (t.addCondition d).conditions = before ++ e :: after ∧ c.Joins d e)
    ∧ ∀ (t : Creature) (c d : Condition), t.isImmune c.kind = false →
        t.hasCondition c.kind = false → c.kind = d.kind → c.Proper → d.Proper →
        ∃ e e', ((t.addCondition c).addCondition d).conditions = t.conditions ++ [e]
          ∧ ((t.addCondition d).addCondition c).conditions = t.conditions ++ [e']
          ∧ e.lifetime = e'.lifetime ∧ e.tickDamage.abs = e'.tickDamage.abs
          ∧ e.interval = e'.interval ∧ c.Joins d e ∧ d.Joins c e' := by
  refine ⟨fun w id t ht hnone fates => ?_, fun t c d hkinds hopen hc hkind _ hnew =>
    Creature.addCondition_joins hkinds hc hkind hopen hnew.interval,
    fun t c d hopen habsent hkind hc hd => ?_⟩
  · obtain ⟨t', ht', hbequeaths⟩ := exists_right_of_rel (w.tends_undergoAll fates id) ht
    have htidy := hbequeaths.tidy (Creature.tidy_of_none hnone)
    exact ⟨t', ht', hbequeaths.immunities, htidy.apart,
      fun d hd => htidy.exempt d.kind (List.mem_map_of_mem hd)⟩
  · obtain ⟨e, e', hfirst, hsecond, hjoin, hjoin'⟩ :=
      Creature.addCondition_comm habsent hkind hopen hc.interval hd.interval
    obtain ⟨hlifetime, hdamage, hinterval⟩ := hjoin.comm hjoin'
    exact ⟨e, e', hfirst, hsecond, hlifetime, hdamage, hinterval, hjoin, hjoin'⟩

/-- A druid that no fire harms is poisoned, set on fire and poisoned again, by a weaker poison without an
    end: it carries one poison in the end, and whichever of the two came first, that one has no end. -/
theorem one_condition_per_kind_druid :
    let druid : Creature := { Creature.new ⟨1⟩ "druid" .player ⟨100, 100, 7⟩ with
      immunities := [.fire] }
    let w := (World.new .empty {} 0).addCreature druid
    let bite := (Condition.new .poison 6000).withDamage (-5) 2000
    let swamp := (Condition.new .poison (-1)).withDamage (-3) 4000
    let poisoned := druid.addCondition bite
    druid.conditions = [] ∧ bite.Proper ∧ swamp.Proper
      ∧ (∃ t', (w.undergoAll [.given ⟨1⟩ bite, .given ⟨1⟩ (.new .fire 6000), .round (.tick 1000),
          .given ⟨1⟩ swamp]).creature? ⟨1⟩ = some t' ∧ (t'.conditions.map Condition.kind).Nodup)
      ∧ (∃ before e after, poisoned.conditions = before ++ bite :: after
          ∧ (poisoned.addCondition swamp).conditions = before ++ e :: after ∧ bite.Joins swamp e)
      ∧ ∃ e e', ((druid.addCondition bite).addCondition swamp).conditions = [e]
          ∧ ((druid.addCondition swamp).addCondition bite).conditions = [e']
          ∧ e.lifetime = ⊤ ∧ e'.lifetime = ⊤ := by
  intro druid w bite swamp poisoned
  obtain ⟨hrun, hrefresh, hcomm⟩ := one_condition_per_kind
  have hdruid : w.creature? ⟨1⟩ = some druid :=
    (creature?_addCreature _ druid ⟨1⟩).trans (if_pos rfl)
  have hbite : bite.Proper := ⟨by decide, by decide⟩
  have hswamp : swamp.Proper := ⟨by decide, by decide⟩
  obtain ⟨t', ht', -, hapart, -⟩ := hrun w ⟨1⟩ druid hdruid rfl
    [.given ⟨1⟩ bite, .given ⟨1⟩ (.new .fire 6000), .round (.tick 1000), .given ⟨1⟩ swamp]
  obtain ⟨e, e', hfirst, hsecond, hsame, -, -, hjoin, -⟩ :=
    hcomm druid bite swamp rfl rfl rfl hbite hswamp
  have hendless : e.lifetime = ⊤ := hjoin.lifetime.trans (max_top_right _)
  exact ⟨rfl, hbite, hswamp, ⟨t', ht', hapart⟩,
    hrefresh poisoned bite swamp (by decide) rfl (by decide) rfl hbite hswamp,
    e, e', hfirst, hsecond, hendless, hsame.symm.trans hendless⟩

end World

end Realm
