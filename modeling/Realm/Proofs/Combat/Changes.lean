/-
  Realm.Proofs.Combat.Changes — a cast as a run of single changes.

  Whatever way a combat is cast, it does a few kinds of things to a world, one after the other: it
  throws dice, shows effects, changes a creature's health, mana or conditions, begins and prolongs
  fights, wears a weapon, lays a field, and makes sure of tiles.  What each of these keeps, a cast keeps.
  The weapon is worn before all else, if it is.

  Main statements:
  * `changes_enter` — every way to cast a combat is a run of such changes;
  * `changes_paid` — once a cast has paid its charge, none of them wears a weapon;
  * `Change.frame` — no such change moves a creature, or takes an item away.
-/
import Mathlib.Logic.Relation
import Realm.Proofs.Combat.Frame

namespace Realm

/-- Whether an event only shows something. -/
def Event.isShow : Event → Bool
  | .magicEffect .. | .distanceEffect .. | .hitBlocked .. => true
  | .healthChanged .. | .manaChanged .. | .itemAdded .. | .decayStarted .. | .inFight .. | .died .. =>
    false

namespace Cast

/-! ## §1. Single changes. -/

/-- **The single changes of a cast,** with those that wear its caster's weapon or without. -/
inductive Change (c : Cast) (wears : Prop) : World → World → Prop
  | rolled (w : World) (min max : Int32) : Change c wears w (w.roll min max).2
  | shown (w : World) (e : Event) (h : e.isShow = true) : Change c wears w (w.emit e)
  | health (w : World) (target : CreatureId) (change : Int32) :
      Change c wears w (w.changeHealth c.caster target c.settings.damageType change).2
  | mana (w : World) (target : CreatureId) (change : Int32) :
      Change c wears w (w.changeMana c.caster target change).2
  | conditions (w : World) (target : CreatureId) : Change c wears w (c.addConditions w target)
  | dispelled (w : World) (target : CreatureId) : Change c wears w (c.dispel w target)
  | attacked (w : World) (caster target : CreatureId) (hcaster : c.caster = some caster)
      (hother : caster ≠ target) : Change c wears w (w.attackedCreature caster target)
  | fight (w : World) (id : CreatureId) (lock : Bool) :
      Change c wears w (w.extendFight id w.rules.fightDuration lock)
  | worn (w : World) (caster : Creature) (weapon : Item) (hcaster : c.caster? w = some caster)
      (hwears : wears) :
      Change c wears w (w.modifyCreature caster.id fun p => { p with weapon := some weapon })
  | field (w : World) (p : Position) : Change c wears w (c.layField w p)
  | covered (w : World) (target : Position) : Change c wears w (c.cover w target).2

variable (c : Cast) {wears : Prop} {w w' w'' : World}

/-- **No single change** moves a creature, takes an item away or lays more than one, and only those that
    wear a weapon touch one. -/
theorem Change.frame (h : c.Change wears w w') :
    w.Frame (fun _ => True) (fun _ => True) (fun _ => wears) (fun _ => 1) w' := by
  cases h with
  | rolled min max => exact World.frame_roll w min max
  | shown e _ => exact World.Frame.emit e
  | health target change => exact World.frame_changeHealth w trivial _ _ change
  | mana target change => exact World.frame_changeMana w trivial _ change
  | conditions target => exact c.frame_addConditions trivial w
  | dispelled target => exact c.frame_dispel trivial w
  | attacked caster target _ _ =>
    exact World.frame_attackedCreature w caster target fun _ _ _ _ => trivial
  | fight id lock => exact World.frame_extendFight w id _ lock fun _ => trivial
  | worn caster weapon _ hwears =>
    exact World.Frame.modifyCreature caster.id _ fun p _ =>
      ⟨rfl, fun hno => absurd trivial hno, fun _ => ⟨rfl, rfl, rfl⟩, fun hno => absurd hwears hno,
        fun _ => .inl rfl⟩
  | field p => exact c.frame_layField w (Nat.le_refl 1)
  | covered target => exact c.frame_cover w target

/-! ## §2. Runs of changes. -/

/-- **A run of single changes.** -/
abbrev Changes (wears : Prop) : World → World → Prop := Relation.ReflTransGen (c.Change wears)

/-- A change that may be left out. -/
theorem changes_ite {p : Prop} [Decidable p] (h : c.Change wears w w') :
    c.Changes wears w (if p then w' else w) := by
  split
  · exact .single h
  · exact .refl

/-! ## §3. Impacts. -/

theorem changes_blockHit (w : World) (target : CreatureId) (t : DamageType) (change : Int32) :
    c.Changes wears w (w.blockHit target t change).2 := by
  unfold World.blockHit
  split
  · exact .refl
  · split
    · exact .refl
    · split
      · -- a blocked hit is told, and shown
        have hblocked : c.Changes wears w (w.emit (.hitBlocked target)) := .single (.shown w _ rfl)
        exact hblocked.tail (.shown _ _ rfl)
      · exact .refl

theorem changes_afterChange (target : CreatureId) {changed : Bool × World}
    (h : c.Changes wears w changed.2) : c.Changes wears w (c.afterChange target changed) := by
  unfold afterChange
  split
  · exact (h.tail (.conditions _ target)).tail (.dispelled _ target)
  · exact h

theorem changes_applyHealth (w : World) (target : CreatureId) (bounds : Span) :
    c.Changes wears w (c.applyHealth w target bounds) := by
  unfold applyHealth
  dsimp only
  have hroll : c.Changes wears w (w.roll bounds.min bounds.max).2 := .single (.rolled w _ _)
  generalize w.roll bounds.min bounds.max = rolled at hroll ⊢
  have hhit : c.Changes wears w (rolled.2.blockHit target c.settings.damageType rolled.1).2 :=
    hroll.trans (c.changes_blockHit rolled.2 target c.settings.damageType rolled.1)
  generalize rolled.2.blockHit target c.settings.damageType rolled.1 = hit at hhit ⊢
  split
  · exact hhit
  · exact c.changes_afterChange target (hhit.tail (.health hit.2 target _))

theorem changes_applyMana (w : World) (target : CreatureId) (bounds : Span) :
    c.Changes wears w (c.applyMana w target bounds) := by
  unfold applyMana
  dsimp only
  have hroll : c.Changes wears w (w.roll bounds.min bounds.max).2 := .single (.rolled w _ _)
  generalize w.roll bounds.min bounds.max = rolled at hroll ⊢
  exact c.changes_afterChange target (hroll.tail (.mana rolled.2 target _))

theorem changes_blow (w : World) (target : CreatureId) : c.Changes wears w (c.blow w target) := by
  unfold blow
  split
  · exact .refl
  · rename_i caster hcaster
    split
    · -- the attack is put down to the caster, and the target is drawn into the fight
      rename_i hblow
      have hattack : c.Changes wears w (w.attackedCreature caster target) :=
        .single (.attacked w caster target hcaster hblow.2)
      generalize w.attackedCreature caster target = w₁ at hattack ⊢
      exact hattack.trans (c.changes_ite (.fight w₁ target false))
    · exact .refl

theorem changes_impactOn (w : World) (target : CreatureId) (impact : Impact) :
    c.Changes wears w (c.impactOn w target impact) := by
  cases impact with
  | health bounds => exact c.changes_applyHealth w target bounds
  | mana bounds => exact c.changes_applyMana w target bounds
  | conditions => exact .single (.conditions w target)
  | dispel => exact .single (.dispelled w target)
  | plain =>
    have hadded : c.Changes wears w (c.addConditions w target) := .single (.conditions w target)
    exact (hadded.tail (.dispelled _ target)).trans (c.changes_blow _ target)

/-- A creature is reported once the impact was done to it. -/
theorem changes_reported (s : Scene) (target : CreatureId) (impact : Impact) :
    c.Changes wears s.world (c.report (c.apply s target impact) target).world := by
  rw [report_world]
  exact c.changes_impactOn s.world target impact

theorem changes_strike (impact : Impact) (s : Scene) (target : CreatureId) :
    c.Changes wears s.world (c.strike impact s target).world := by
  have hreported : c.Changes wears s.world (c.report (c.apply s target impact) target).world :=
    c.changes_reported s target impact
  unfold strike
  split
  · dsimp only
    split
    · exact hreported.trans (c.changes_blow _ target)
    · exact hreported
  · exact .refl

/-! ## §4. Tiles. -/

theorem changes_showImpact (w : World) (viewers : Nat) (p : Position) :
    c.Changes wears w (c.showImpact w viewers p) := by
  unfold showImpact
  split
  · exact .refl
  · exact .single (.shown w _ rfl)

theorem changes_shoot (w : World) (target : Position) : c.Changes wears w (c.shoot w target) := by
  have hshown : ∀ (effect : UInt8) (e : Event), e.isShow = true →
      c.Changes wears w (if effect = Effect.none then w else w.emit e) := by
    intro effect e he
    split
    · exact .refl
    · exact .single (.shown w e he)
  unfold shoot
  split
  · exact .refl
  · exact hshown _ _ rfl

theorem changes_showOn (w : World) (target : CreatureId) : c.Changes wears w (c.showOn w target) := by
  unfold showOn
  split
  · exact .refl
  · exact (c.changes_showImpact w _ _).trans (c.changes_shoot _ _)

theorem changes_touchTile (s : Scene) (viewers : Nat) (p : Position) :
    c.Changes wears s.world (c.touchTile s viewers p).world := by
  have hlaid : c.Changes wears s.world (c.layField s.world p) := .single (.field s.world p)
  unfold touchTile
  dsimp only
  split
  · exact hlaid.trans (c.changes_showImpact _ viewers p)
  · exact hlaid.trans (c.changes_showImpact _ viewers p)

/-- A run of steps, of which each is a run of changes. -/
theorem changes_foldl {α : Type} {f : Scene → α → Scene}
    (h : ∀ s a, c.Changes wears s.world (f s a).world) (as : List α) :
    ∀ s : Scene, c.Changes wears s.world (as.foldl f s).world := by
  induction as with
  | nil => exact fun s => .refl
  | cons a as ih => exact fun s => (h s a).trans (ih (f s a))

theorem changes_resolveTile (impact : Impact) (viewers : Nat) (s : Scene) (p : Position) :
    c.Changes wears s.world (c.resolveTile impact viewers s p).world := by
  unfold resolveTile
  split
  · exact .refl
  · split
    · -- first the creatures of the tile, then the tile itself
      exact (c.changes_foldl (c.changes_strike impact) _ s).trans (c.changes_touchTile _ viewers p)
    · exact .refl

theorem changes_afterTiles (w : World) (target : Position) :
    c.Changes wears w (c.afterTiles w target) := by
  have hshot : c.Changes wears w (c.shoot w target) := c.changes_shoot w target
  unfold afterTiles
  dsimp only
  generalize c.shoot w target = w₁ at hshot ⊢
  split
  · exact hshot.trans (c.changes_ite (.fight w₁ _ _))
  · exact hshot

theorem changes_onPlace (s : Scene) (target : Position) (impact : Impact) :
    c.Changes wears s.world (c.onPlace s target impact).world := by
  have hcovered : c.Changes wears s.world (c.cover s.world target).2 := .single (.covered s.world target)
  unfold onPlace
  dsimp only
  -- how many watch does not matter here
  generalize (World.spectators _ _ _ _).length = viewers
  have htiles : c.Changes wears (c.cover s.world target).2
      ((c.cover s.world target).1.foldl (c.resolveTile impact viewers)
        { s with world := (c.cover s.world target).2 }).world :=
    c.changes_foldl (c.changes_resolveTile impact viewers) _
      { s with world := (c.cover s.world target).2 }
  exact (hcovered.trans htiles).trans (c.changes_afterTiles _ target)

/-! ## §5. Creatures. -/

theorem changes_onHealth (s : Scene) (target : CreatureId) (bounds : Span) :
    c.Changes wears s.world (c.onHealth s target bounds).world := by
  have happlied : c.Changes wears s.world (c.apply s target (.health bounds)).world :=
    c.changes_impactOn s.world target (.health bounds)
  unfold onHealth
  generalize c.apply s target (.health bounds) = hit at happlied ⊢
  split
  · exact happlied.trans (c.changes_showOn hit.world target)
  · exact .refl

theorem changes_onMana (s : Scene) (target : CreatureId) (bounds : Span) :
    c.Changes wears s.world (c.onMana s target bounds).world := by
  unfold onMana
  split
  · exact (c.changes_reported s target _).trans (c.changes_showOn _ target)
  · exact .refl

theorem changes_withBlow (s : Scene) (target : CreatureId) (impact : Impact) :
    c.Changes wears s.world (c.withBlow s target impact).world := by
  unfold withBlow
  split
  · exact ((c.changes_reported s target impact).trans (c.changes_showOn _ target)).trans
      (c.changes_blow _ target)
  · exact .refl

theorem changes_onPlain (s : Scene) (target : CreatureId) :
    c.Changes wears s.world (c.onPlain s target).world := by
  have happlied : c.Changes wears s.world (c.apply s target .plain).world :=
    c.changes_impactOn s.world target .plain
  unfold onPlain
  split
  · split
    · exact .refl
    · rename_i t _
      have htouched := happlied.trans
        (c.changes_touchTile _ (s.world.viewers t.position) t.position)
      dsimp only
      generalize c.touchTile (c.apply s target .plain) (s.world.viewers t.position) t.position = s₁
        at htouched ⊢
      rw [← c.report_world s₁ target] at htouched
      exact htouched.trans (c.changes_showOn _ target)
  · exact .refl

/-! ## §6. Ways to cast. -/

/-- Whom a way to cast asks about, if it works out its change by itself: the creature that it is on, or
    nobody. -/
def Entry.asks : Entry → Option (Option CreatureId)
  | .onCreature target => some (some target)
  | .atPlace _ => some none
  | .healthOn _ _ | .manaOn _ _ | .conditionsOn _ | .dispelOn _ | .plainOn _ | .impactAt _ _ => none

/-- **The charge that a way to cast costs:** that of working out its change, unless there is none. -/
def Entry.charge? (c : Cast) (w : World) (e : Entry) : Option (Creature × Item) :=
  if c.settings.damageType = .none then none else e.asks.bind (c.charge? w)

/-- No combat without a damage type works out a change. -/
theorem charge?_of_none (h : c.settings.damageType = .none) (w : World) (e : Entry) :
    e.charge? c w = none := if_pos h

/-- A cast with a given change costs no charge. -/
theorem charge?_of_asks_none {e : Entry} (h : e.asks = none) : e.charge? c w = none := by
  unfold Entry.charge?
  rw [h, Option.bind_none, ite_self]

/-- A cast that works out its change costs the charge of that. -/
theorem charge?_of_asks {e : Entry} {target : Option CreatureId}
    (hdamage : c.settings.damageType ≠ .none) (h : e.asks = some target) :
    e.charge? c w = c.charge? w target := by
  unfold Entry.charge?
  rw [if_neg hdamage, h, Option.bind_some]

theorem changes_onCreature (s : Scene) (target : CreatureId) :
    c.Changes wears (pay s.world ((Entry.onCreature target).charge? c s.world))
      (c.onCreature s target).world := by
  unfold onCreature
  split
  · rename_i hnone
    rw [c.charge?_of_none hnone]
    exact c.changes_onPlain s target
  · rename_i hdamage
    rw [c.charge?_of_asks hdamage rfl, ← c.span_world s (some target)]
    dsimp only
    split
    · exact c.changes_onMana _ target _
    · exact c.changes_onHealth _ target _

theorem changes_atPlace (s : Scene) (target : Position) :
    c.Changes wears (pay s.world ((Entry.atPlace target).charge? c s.world))
      (c.atPlace s target).world := by
  unfold atPlace
  split
  · rename_i hnone
    rw [c.charge?_of_none hnone]
    exact c.changes_onPlace s target .plain
  · rename_i hdamage
    rw [c.charge?_of_asks hdamage rfl, ← c.span_world s none]
    exact c.changes_onPlace _ target _

/-- **A cast pays its charge first,** and wears no weapon after that. -/
theorem changes_paid (s : Scene) (e : Entry) :
    c.Changes wears (pay s.world (e.charge? c s.world)) (c.enter s e).world := by
  cases e with
  | onCreature target => exact c.changes_onCreature s target
  | atPlace target => exact c.changes_atPlace s target
  | healthOn target bounds =>
    rw [c.charge?_of_asks_none rfl]
    exact c.changes_onHealth s target bounds
  | manaOn target bounds =>
    rw [c.charge?_of_asks_none rfl]
    exact c.changes_onMana s target bounds
  | conditionsOn target =>
    rw [c.charge?_of_asks_none rfl]
    exact c.changes_withBlow s target .conditions
  | dispelOn target =>
    rw [c.charge?_of_asks_none rfl]
    exact c.changes_withBlow s target .dispel
  | plainOn target =>
    rw [c.charge?_of_asks_none rfl]
    exact c.changes_onPlain s target
  | impactAt target impact =>
    rw [c.charge?_of_asks_none rfl]
    exact c.changes_onPlace s target impact

/-- The charge of a cast is its caster's. -/
theorem caster?_of_entry_charge? {e : Entry} {charge : Creature × Item}
    (h : e.charge? c w = some charge) : c.caster? w = some charge.1 := by
  unfold Entry.charge? at h
  split at h
  · cases h
  · obtain ⟨target, -, hcharge⟩ := Option.bind_eq_some_iff.1 h
    exact c.caster?_of_charge? hcharge

/-- **A cast is a run of single changes,** whichever way it is cast. -/
theorem changes_enter (s : Scene) (e : Entry) : c.Changes True s.world (c.enter s e).world := by
  have hpaid : c.Changes True s.world (pay s.world (e.charge? c s.world)) := by
    cases hcharge : e.charge? c s.world with
    | none => exact .refl
    | some charge =>
      exact .single (.worn _ charge.1 _ (c.caster?_of_entry_charge? hcharge) trivial)
  exact hpaid.trans (c.changes_paid s e)

end Cast

end Realm
