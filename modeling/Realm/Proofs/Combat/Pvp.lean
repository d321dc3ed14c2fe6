/-
  Realm.Proofs.Combat.Pvp — players who hurt players.

  Before each impact a cast asks whether it may affect the creature, in the world as it is by then.  So
  whoever is hurt was judged on the way and passed: it may be attacked at all, it stands on no tile where
  players are safe, and what the world asks of two players holds.  All that these judgements look at is
  in the part of creatures and tiles that casts leave alone, so they hold of the world as it was at first
  — whether creatures are registered under their own names or not.

  Main statements:
  * `keeps_enter_affected` — a cast hurts only whom it may affect on the way;
  * `guildEnemy_of_hurt` — where fights among players are optional, only guild enemies in zones for it
    are hurt;
  * `guarded_in_noPvp` — where they are not wanted at all, players are spared as in any other world, and
    no further.
-/
import Realm.Proofs.Combat.Reports
import Realm.Proofs.Combat.Shelter

namespace Realm

namespace Cast

variable (c : Cast) {hurt : CreatureId → Prop} {w w' w'' : World} {s : Scene}

/-! ## §1. Steps that hurt only some. -/

/-- **A change that hurts only some creatures,** whatever it leaves on tiles. -/
def HurtsOnly (hurt : CreatureId → Prop) (w w' : World) : Prop := ∃ gain, c.Keeps hurt gain w w'

/-- **Whom a cast affects:** the creatures that it may affect in some world that it may have come to. -/
def Affects (w : World) (id : CreatureId) : Prop :=
  ∃ s : Scene, c.Follows w s ∧ c.mayAffect s.world id = true

variable {c}

namespace HurtsOnly

theorem refl (w : World) : c.HurtsOnly hurt w w := ⟨fun _ => 0, .refl w⟩

theorem trans (h : c.HurtsOnly hurt w w') (h' : c.HurtsOnly hurt w' w'') : c.HurtsOnly hurt w w'' := by
  obtain ⟨_, hkept⟩ := h
  obtain ⟨_, hkept'⟩ := h'
  exact ⟨_, hkept.trans hkept'⟩

/-- What comes after a scene of the cast is a scene of the cast. -/
theorem follows {s' : Scene} (hstep : c.HurtsOnly hurt s.world s'.world) (h : c.Follows w s) :
    c.Follows w s' := by
  obtain ⟨_, hbefore⟩ := h
  obtain ⟨_, hkept⟩ := hstep
  have hafter := hbefore.trans (hkept.mono (fun _ _ => trivial) fun _ => Nat.le_refl _)
  exact ⟨_, hafter⟩

/-- A step that adds one item to each tile at most, or none. -/
theorem of_keeps (h : c.Keeps hurt (fun _ => 1) w w') : c.HurtsOnly hurt w w' := ⟨_, h⟩

end HurtsOnly

/-- **A run of steps,** each of which hurts only some in a world that the cast may have come to. -/
theorem hurtsOnly_foldl {α : Type} {f : Scene → α → Scene}
    (hstep : ∀ s a, c.Follows w s → c.HurtsOnly hurt s.world (f s a).world) (as : List α) :
    ∀ s : Scene, c.Follows w s → c.HurtsOnly hurt s.world (as.foldl f s).world := by
  induction as with
  | nil =>
    intro s _
    exact .refl s.world
  | cons a as ih =>
    intro s hs
    have hhead : c.HurtsOnly hurt s.world (f s a).world := hstep s a hs
    -- what is left of the run starts in a scene of the cast, too
    exact hhead.trans (ih (f s a) (hhead.follows hs))

/-! ## §2. A cast hurts whom it affects. -/

/-- One creature of a tile is asked for before it is hurt. -/
theorem hurtsOnly_strike (impact : Impact) (s : Scene) (target : CreatureId) (h : c.Follows w s) :
    c.HurtsOnly (c.Affects w) s.world (c.strike impact s target).world := by
  rw [strike_eq]
  split
  · rename_i hmay
    have haffected : c.Affects w target := ⟨s, h, hmay⟩
    exact .of_keeps (c.keeps_land haffected s impact)
  · exact .refl _

theorem hurtsOnly_resolveTile (impact : Impact) (viewers : Nat) (s : Scene) (p : Position)
    (h : c.Follows w s) :
    c.HurtsOnly (c.Affects w) s.world (c.resolveTile impact viewers s p).world := by
  rw [resolveTile_eq]
  split
  · exact .refl _
  · rename_i t _
    split
    · have hstruck := hurtsOnly_foldl (hurtsOnly_strike impact) (c.takenFrom s.world p t) s h
      refine hstruck.trans (.of_keeps ?_)
      exact c.keeps_touchTile _ viewers (Nat.le_refl 1)
    · exact .refl _

theorem hurtsOnly_onPlace (target : Position) (impact : Impact) (h : c.Follows w s) :
    c.HurtsOnly (c.Affects w) s.world (c.onPlace s target impact).world := by
  have hcover : c.HurtsOnly (c.Affects w) s.world (c.cover s.world target).2 :=
    .of_keeps (c.frame_cover s.world target)
  have hstart : c.Follows w { s with world := (c.cover s.world target).2 } := hcover.follows h
  rw [onPlace_eq]
  generalize c.audience s.world target = viewers
  -- the tiles one after the other, and what follows on them
  have htiles := hurtsOnly_foldl (hurtsOnly_resolveTile impact viewers) (c.cover s.world target).1 _
    hstart
  exact (hcover.trans htiles).trans (.of_keeps (c.keeps_afterTiles _ target))

/-- **A cast hurts nobody whom it may not affect** when the turn comes to that creature. -/
theorem keeps_enter_affected (s : Scene) (e : Entry) :
    c.HurtsOnly (c.Affects s.world) s.world (c.enter s e).world := by
  cases htarget : e.target? with
  | some target =>
    by_cases hmay : c.mayAffect s.world target = true
    · have haffected : c.Affects s.world target := ⟨s, .refl s, hmay⟩
      exact .of_keeps (c.keeps_aimed haffected s htarget)
    · -- a refused cast hurts nobody at all
      have hrefuses := (c.mayAffect_eq_false_iff s.world target).1 (Bool.eq_false_iff.2 hmay)
      have hrefused := c.frame_of_refused s htarget hrefuses
      exact ⟨_, World.Frame.mono hrefused (fun _ => False.elim) (fun _ => False.elim)
        (fun _ hid => hid) fun _ => Nat.le_refl _⟩
  | none =>
    cases e with
    | impactAt p impact => exact hurtsOnly_onPlace p impact (.refl s)
    | atPlace p =>
      have hspan : c.HurtsOnly (c.Affects s.world) s.world (c.spanOrZero s none).2.world :=
        .of_keeps (c.keeps_span s none)
      have hstart : c.Follows s.world (c.spanOrZero s none).2 := hspan.follows (.refl s)
      show c.HurtsOnly _ s.world (c.atPlace s p).world
      unfold atPlace
      split
      · exact hurtsOnly_onPlace p .plain (.refl s)
      · exact hspan.trans (hurtsOnly_onPlace p _ hstart)
    | _ => cases htarget

end Cast

/-! ## §3. Judgements. -/

namespace World

variable {w : World} {a p t : Creature}

/-- **What an attack on a player has passed** when it comes from a player or one that serves a player. -/
structure Passes (w : World) (a t : Creature) : Prop where
  attackable : t.has (·.cannotBeAttacked) = false
  place : w.isNoPvp t.position = false
  rules : w.verdictBetweenPlayers a t false = .allowed

/-- The two ways in which a player answers for an attacker are the ones that an attack is judged by. -/
theorem isOwned_of_playerInCharge (h : w.playerInCharge a = some p) :
    (a.isPlayer || (w.playerMaster a).isSome) = true := by
  unfold playerInCharge at h
  split at h
  · rename_i hplayer
    rw [hplayer]
    rfl
  · rw [h]
    exact Bool.or_true _

theorem isAllowed_refusal (t : Creature) : (refusal t).isAllowed = false := by
  unfold refusal
  split <;> rfl

/-- **An allowed attack on a player** has passed. -/
theorem passes_of_allowed (hcharge : w.playerInCharge a = some p) (ht : t.isPlayer = true)
    (h : (w.verdictOnAttack (some a) t).isAllowed = true) : w.Passes a t := by
  have howned := isOwned_of_playerInCharge hcharge
  unfold verdictOnAttack at h
  dsimp only at h
  -- flags and locks first, then the place, and the rules of the world last
  by_cases hbarred : w.barred a t = true
  · rw [if_pos hbarred, isAllowed_refusal] at h
    cases h
  · rw [if_neg hbarred, if_pos howned, ht, Bool.true_and] at h
    by_cases hplace : w.isNoPvp t.position = true
    · rw [if_pos hplace] at h
      cases h
    · rw [if_neg hplace] at h
      rw [Bool.not_eq_true, barred, if_pos ht] at hbarred
      simp only [Bool.or_eq_false_iff] at hbarred
      exact ⟨hbarred.1.1, Bool.eq_false_iff.2 hplace, (Cast.isAllowed_iff _).1 h⟩

/-- A player answers for itself, whatever levels are counted for. -/
theorem targetPlayer_of_isPlayer (ht : t.isPlayer = true) : w.targetPlayer t = some t := by
  unfold targetPlayer playerInCharge
  rw [if_pos ht, if_pos ht, ite_self]

/-- What the world asks of two players. -/
theorem keptApart_of_passes (hcharge : w.playerInCharge a = some p) (ht : t.isPlayer = true)
    (h : w.Passes a t) : w.keptApart a t p t false = false := by
  have hrules := h.rules
  unfold verdictBetweenPlayers at hrules
  rw [targetPlayer_of_isPlayer ht, hcharge] at hrules
  dsimp only at hrules
  split at hrules
  · have hrefused := isAllowed_refusal t
    rw [hrules] at hrefused
    cases hrefused
  · exact Bool.eq_false_iff.2 ‹_›

/-- No change within a frame bears on what an attack has passed. -/
theorem Frame.passes {hurt marked armed : CreatureId → Prop} {gain : Position → Nat} {w' : World}
    (h : Frame hurt marked armed gain w w') {a' t' : Creature} (ha : a'.fixed = a.fixed)
    (ht : t'.fixed = t.fixed) (hpasses : w'.Passes a' t') : w.Passes a t where
  attackable := by
    rw [← hpasses.attackable]
    exact (Creature.read_of_fixed ht fun t => t.has (·.cannotBeAttacked)).symm
  place := by
    have hplace : t'.position = t.position := Creature.read_of_fixed ht Creature.position
    rw [← hpasses.place, h.isNoPvp_eq, hplace]
  rules := by
    rw [← hpasses.rules, h.verdictBetweenPlayers_eq ha ht]

/-! ## §4. Types of worlds. -/

/-- **Where fights are optional,** an attack that passed is on a guild enemy, and both stand in zones for
    it. -/
theorem Passes.guildEnemy (h : w.Passes a t) (hrules : w.rules.worldType = .optionalPvp)
    (hcharge : w.playerInCharge a = some p) (ht : t.isPlayer = true) :
    t.isGuildEnemy p = true ∧ w.zoneOf a = .pvp ∧ w.zoneOf t = .pvp := by
  have hoptional : w.rules.isOptionalPvp = true := by
    rw [Rules.isOptionalPvp, hrules]
    rfl
  have hkept := keptApart_of_passes hcharge ht h
  unfold keptApart bothInPvpZone at hkept
  rw [if_pos hoptional] at hkept
  simpa using hkept

/-- A world of another type. -/
def ofType (w : World) (type : WorldType) : World :=
  { w with rules := { w.rules with worldType := type } }

/-- **A guarded player:** it stands where players must not be attacked, one of the two is below the level
    for fights, or it may not be attacked at all. -/
def Guarded (w : World) (p t : Creature) : Prop :=
  w.isNoPvp t.position = true ∨ belowLevel w.rules p t false = true
    ∨ t.has (·.cannotBeAttacked) = true

/-- Unless fights are optional, an attack on a guarded player does not pass. -/
theorem Passes.not_guarded (h : w.Passes a t) (hrules : w.rules.isOptionalPvp = false)
    (hcharge : w.playerInCharge a = some p) (ht : t.isPlayer = true) : ¬ w.Guarded p t := by
  have hkept := keptApart_of_passes hcharge ht h
  have hneg : ¬ w.rules.isOptionalPvp = true := Bool.eq_false_iff.1 hrules
  unfold keptApart at hkept
  rw [if_neg hneg, Bool.not_false, Bool.true_or, Bool.true_and] at hkept
  rintro (hplace | hlevel | hsafe)
  · rw [h.place] at hplace
    cases hplace
  · rw [hkept] at hlevel
    cases hlevel
  · rw [h.attackable] at hsafe
    cases hsafe

/-- **The type of a world** bears on an attack only where fights are optional. -/
theorem verdictOnAttack_ofType {type : WorldType} (hrules : w.rules.isOptionalPvp = false)
    (htype : type ≠ .optionalPvp) (attacker : Option Creature) (t : Creature) :
    (w.ofType type).verdictOnAttack attacker t = w.verdictOnAttack attacker t := by
  have hnew : (w.ofType type).rules.isOptionalPvp = false := decide_eq_false htype
  have hkept : ∀ a p q : Creature,
      (w.ofType type).keptApart a t p q false = w.keptApart a t p q false := by
    intro a p q
    unfold keptApart
    rw [hnew, hrules]
    rfl
  have hbetween : ∀ a : Creature,
      (w.ofType type).verdictBetweenPlayers a t false = w.verdictBetweenPlayers a t false := by
    intro a
    have htarget : (w.ofType type).targetPlayer t = w.targetPlayer t := rfl
    have hcharge : (w.ofType type).playerInCharge a = w.playerInCharge a := rfl
    unfold verdictBetweenPlayers
    rw [htarget, hcharge]
    simp only [hkept]
  cases attacker with
  | none => rfl
  | some a =>
    unfold verdictOnAttack
    dsimp only
    rw [hbetween]
    rfl

end World

namespace Cast

variable {c : Cast} {w : World} {a p t : Creature} {id : CreatureId}

/-- **Whom a player's cast affects,** itself or through one that serves it, that player has passed. -/
theorem Affects.passes (h : c.Affects w id) (haggressive : c.settings.aggressive = true)
    (hcaster : c.caster? w = some a) (hcharge : w.playerInCharge a = some p)
    (hid : w.creature? id = some t) (ht : t.isPlayer = true) : w.Passes a t := by
  obtain ⟨s, ⟨_, hframe⟩, hmay⟩ := h
  -- caster, player and target as they were when the cast was judged
  have hcaster' := c.caster?_fixed hframe
  rw [hcaster] at hcaster'
  obtain ⟨a', ha', hafixed⟩ := Option.map_eq_some_iff.1 hcaster'
  have hcharge' := World.Frame.playerInCharge_fixed hframe hafixed
  rw [hcharge] at hcharge'
  obtain ⟨p', hp', -⟩ := Option.map_eq_some_iff.1 hcharge'
  have hid' := World.Frame.creature?_fixed hframe id
  rw [hid] at hid'
  obtain ⟨t', ht', htfixed⟩ := Option.map_eq_some_iff.1 hid'
  have hplayer : t'.isPlayer = true := (Creature.read_of_fixed htfixed Creature.isPlayer).trans ht
  have hallowed : (s.world.verdictOnAttack (some a') t').isAllowed = true := by
    unfold mayAffect at hmay
    rw [haggressive, Bool.not_true, Bool.false_or, Bool.and_eq_true, ht', Option.any_some, ha'] at hmay
    exact hmay.2
  exact World.Frame.passes hframe hafixed htfixed (World.passes_of_allowed hp' hplayer hallowed)

/-- **A player whom a player's cast hurts** has passed. -/
theorem passes_of_hurt (s : Scene) (e : Entry) (haggressive : c.settings.aggressive = true)
    (hcaster : c.caster? s.world = some a) (hcharge : s.world.playerInCharge a = some p)
    (hid : s.world.creature? id = some t) (ht : t.isPlayer = true)
    (hhurt : ((c.enter s e).world.creature? id).map (fun t => (t.vitals, t.conditions))
      ≠ (s.world.creature? id).map fun t => (t.vitals, t.conditions)) : s.world.Passes a t := by
  obtain ⟨_, hkept⟩ := c.keeps_enter_affected s e
  by_cases haffected : c.Affects s.world id
  · exact haffected.passes haggressive hcaster hcharge hid ht
  · exact absurd (World.Frame.condition_of_unhurt hkept haffected) hhurt

/-! ## §5. Worlds where fights are optional. -/

/-- **Optional fights stay among guild enemies, and in zones for them.**  In a world where fights among
    players are optional, cast an aggressive combat for a player, by that player or by one that serves
    it, whichever way.  Any player whom it hurts counts that player as a guild enemy, and both the
    creature that casts and the one that is hurt stand in zones for fights. -/
theorem guildEnemy_of_hurt (s : Scene) (e : Entry) (hrules : s.world.rules.worldType = .optionalPvp)
    (haggressive : c.settings.aggressive = true) (hcaster : c.caster? s.world = some a)
    (hcharge : s.world.playerInCharge a = some p) (hid : s.world.creature? id = some t)
    (ht : t.isPlayer = true)
    (hhurt : ((c.enter s e).world.creature? id).map (fun t => (t.vitals, t.conditions))
      ≠ (s.world.creature? id).map fun t => (t.vitals, t.conditions)) :
    t.isGuildEnemy p = true ∧ s.world.zoneOf a = .pvp ∧ s.world.zoneOf t = .pvp :=
  (passes_of_hurt s e haggressive hcaster hcharge hid ht hhurt).guildEnemy hrules hcharge ht

/-- A feud in an arena: a knight's wolf before a druid whose guild fights the knight's.  The knight
    looks on from outside. -/
def feud : World :=
  let arena := ((World.new .empty { worldType := .optionalPvp } 0).addTile ⟨100, 100, 7⟩
    { pvpZone := true }).addTile ⟨101, 100, 7⟩ { pvpZone := true }
  ((arena.addCreature
    { Creature.new ⟨1⟩ "knight" .player ⟨90, 100, 7⟩ with guild := some { id := 1 } }).addCreature
    { Creature.new ⟨2⟩ "druid" .player ⟨101, 100, 7⟩ with
      guild := some { id := 2, enemies := [1] } }).addCreature
    { Creature.new ⟨3⟩ "wolf" .monster ⟨100, 100, 7⟩ with master := some ⟨1⟩ }

/-- The bite of the knight's wolf. -/
def bite : Cast := ⟨{ settings := { damageType := .physical } }, some ⟨3⟩⟩

/-- The wolf's bite hurts the druid, so the druid counts the knight as an enemy, and both the wolf and
    the druid stand in the arena. -/
theorem guildEnemy_of_hurt_druid :
    feud.rules.worldType = .optionalPvp ∧ bite.settings.aggressive = true
      ∧ ∃ wolf knight druid : Creature, bite.caster? feud = some wolf
        ∧ feud.playerInCharge wolf = some knight
        ∧ feud.creature? ⟨2⟩ = some druid ∧ druid.isPlayer = true
        ∧ ((bite.enter ⟨feud, []⟩ (.healthOn ⟨2⟩ ⟨-20, -20⟩)).world.creature? ⟨2⟩).map
            (fun t => (t.vitals, t.conditions))
          ≠ (feud.creature? ⟨2⟩).map (fun t => (t.vitals, t.conditions))
        ∧ druid.isGuildEnemy knight = true ∧ feud.zoneOf wolf = .pvp ∧ feud.zoneOf druid = .pvp := by
  have hcharge : ((bite.caster? feud).bind feud.playerInCharge).isSome = true := by decide
  obtain ⟨knight, hknight⟩ := Option.isSome_iff_exists.1 hcharge
  obtain ⟨wolf, hwolf, hserves⟩ := Option.bind_eq_some_iff.1 hknight
  have hplayer : (feud.creature? ⟨2⟩).any Creature.isPlayer = true := by decide
  obtain ⟨druid, hdruid, hplayer⟩ := (Option.any_eq_true _ _).1 hplayer
  have hhurt : ((bite.enter ⟨feud, []⟩ (.healthOn ⟨2⟩ ⟨-20, -20⟩)).world.creature? ⟨2⟩).map
      (fun t => (t.vitals, t.conditions))
        ≠ (feud.creature? ⟨2⟩).map fun t => (t.vitals, t.conditions) := by
    decide
  have hfair := guildEnemy_of_hurt ⟨feud, []⟩ (.healthOn ⟨2⟩ ⟨-20, -20⟩) rfl rfl hwolf hserves hdruid
    hplayer hhurt
  exact ⟨rfl, rfl, wolf, knight, druid, hwolf, hserves, hdruid, hplayer, hhurt, hfair⟩

/-! ## §6. Worlds where fights are not wanted. -/

/-- **A world without fights among players guards them no better than one with them.**  In such a world,
    cast an aggressive combat for a player, by that player or by one that serves it, whichever way.  It
    leaves the health, the mana and the conditions of guarded players as they are.  That is all: it may
    affect whom it may affect in a world where players fight. -/
theorem guarded_in_noPvp (s : Scene) (e : Entry) (hrules : s.world.rules.worldType = .noPvp)
    (haggressive : c.settings.aggressive = true) (hcaster : c.caster? s.world = some a)
    (hcharge : s.world.playerInCharge a = some p) :
    (∀ id t, s.world.creature? id = some t → t.isPlayer = true → s.world.Guarded p t →
      ((c.enter s e).world.creature? id).map (fun t => (t.vitals, t.conditions))
        = (s.world.creature? id).map fun t => (t.vitals, t.conditions))
    ∧ ∀ id, c.mayAffect (s.world.ofType .pvp) id = c.mayAffect s.world id := by
  have hoptional : s.world.rules.isOptionalPvp = false := by
    rw [Rules.isOptionalPvp, hrules]
    rfl
  constructor
  · intro id t hid ht hguarded
    by_cases hhurt : ((c.enter s e).world.creature? id).map (fun t => (t.vitals, t.conditions))
        = (s.world.creature? id).map fun t => (t.vitals, t.conditions)
    · exact hhurt
    · have hpasses := passes_of_hurt s e haggressive hcaster hcharge hid ht hhurt
      exact absurd hguarded (hpasses.not_guarded hoptional hcharge ht)
  · intro id
    have hsame : c.caster? (s.world.ofType .pvp) = c.caster? s.world := rfl
    unfold mayAffect
    rw [hsame]
    simp only [World.verdictOnAttack_ofType hoptional (by decide : WorldType.pvp ≠ .optionalPvp)]
    rfl

/-- A truce: a knight and a druid in a world without fights among players, and a priest who stands where
    players must not be attacked. -/
def truce : World :=
  ((((World.new .empty { worldType := .noPvp } 0).addTile ⟨102, 100, 7⟩
    { noPvpZone := true }).addCreature (.new ⟨1⟩ "knight" .player ⟨100, 100, 7⟩)).addCreature
    (.new ⟨2⟩ "druid" .player ⟨101, 100, 7⟩)).addCreature (.new ⟨3⟩ "priest" .player ⟨102, 100, 7⟩)

/-- The priest is spared by the knight's assault. -/
theorem guarded_in_noPvp_priest :
    truce.rules.worldType = .noPvp ∧ assault.settings.aggressive = true
      ∧ (∃ knight, assault.caster? truce = some knight ∧ truce.playerInCharge knight = some knight)
      ∧ ((assault.enter ⟨truce, []⟩ (.healthOn ⟨3⟩ ⟨-20, -20⟩)).world.creature? ⟨3⟩).map
        (fun t => (t.vitals, t.conditions)) = some (.full 150 0, []) := by
  have hcaster : (assault.caster? truce).any Creature.isPlayer = true := by decide
  obtain ⟨knight, hknight, hplayer⟩ := (Option.any_eq_true _ _).1 hcaster
  have hcharge : truce.playerInCharge knight = some knight := if_pos hplayer
  have hpriest : truce.creature? ⟨3⟩ = some (.new ⟨3⟩ "priest" .player ⟨102, 100, 7⟩) :=
    (World.creature?_addCreature _ _ _).trans (if_pos rfl)
  have hspared := (guarded_in_noPvp ⟨truce, []⟩ (.healthOn ⟨3⟩ ⟨-20, -20⟩) rfl rfl hknight hcharge).1
    ⟨3⟩ _ hpriest rfl (.inl (by decide))
  refine ⟨rfl, rfl, ⟨knight, hknight, hcharge⟩, hspared.trans ?_⟩
  show (truce.creature? ⟨3⟩).map _ = _
  rw [hpriest]
  rfl

/-- **The truce is no truce:** the knight strikes the druid, who is hurt and cursed. -/
theorem druid_struck_in_truce :
    truce.rules.worldType = .noPvp ∧ assault.settings.aggressive = true
      ∧ (assault.caster? truce).map (fun a => (a.id, a.isPlayer)) = some (⟨1⟩, true)
      ∧ (truce.creature? ⟨2⟩).map (fun t => (t.isPlayer, t.vitals.health, t.conditions))
        = some (true, 150, [])
      ∧ ((assault.enter ⟨truce, []⟩ (.healthOn ⟨2⟩ ⟨-20, -20⟩)).world.creature? ⟨2⟩).map
        (fun t => (t.vitals.health, t.conditions.map Condition.kind)) = some (140, [.cursed]) := by
  decide

end Cast

end Realm
