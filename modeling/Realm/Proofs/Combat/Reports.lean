/-
  Realm.Proofs.Combat.Reports — whom a cast reports.

  A combat may report each creature that its effect was applied to.  Each report follows at once on the
  application, so what a cast leaves is a list of hits: an effect applied, and the report of it, if there
  is a creature to report.  Health of one creature is the exception: it is applied and never reported.

  Main statements:
  * `faithful_onPlace` — the hits of a cast on a place;
  * `faithful_enter` — the hits of every way to cast a combat.
-/
import Realm.Proofs.Combat.Refusal

namespace Realm

/-- Whether an act is an effect applied to a creature, or a report of one. -/
def Act.ofCreature : Act → Bool
  | .applied .. | .target .. => true
  | .asked .. | .tile .. => false

namespace Cast

variable (c : Cast) {w : World} {s s' s'' : Scene}

/-! ## §1. Hits. -/

/-- **What a hit leaves:** the effect applied to a creature, and a report of the creature and of a health,
    if hits are reported and the creature is registered. -/
def hitActs (reported : Bool) (w : World) (hit : CreatureId × Int32) : List Act :=
  .applied hit.1 :: if reported then
    ((w.creature? hit.1).map fun t =>
      Act.target ((c.caster? w).map Creature.id) t.id hit.2).toList
  else []

/-- **A faithful cast** leaves the acts of its hits, one hit after the other, and none of its hits is on
    a creature that it may not affect. -/
def Faithful (reported : Bool) (w : World) (s s' : Scene) : Prop :=
  ∃ hits : List (CreatureId × Int32),
    s'.told Act.ofCreature = s.told Act.ofCreature ++ hits.flatMap (c.hitActs reported w)
      ∧ (w.Keyed → ∀ hit ∈ hits, c.mayAffect w hit.1 = true)

namespace Faithful

variable {c} {reported : Bool}

/-- What neither applies nor reports anything. -/
theorem of_told (h : s'.told Act.ofCreature = s.told Act.ofCreature) : c.Faithful reported w s s' :=
  ⟨[], h.trans (List.append_nil _).symm, fun _ _ hhit => absurd hhit List.not_mem_nil⟩

theorem refl (s : Scene) : c.Faithful reported w s s := of_told rfl

/-- **Hits add up.** -/
theorem trans (h : c.Faithful reported w s s') (h' : c.Faithful reported w s' s'') :
    c.Faithful reported w s s'' := by
  obtain ⟨hits, htold, hmay⟩ := h
  obtain ⟨more, hmore, hmay'⟩ := h'
  refine ⟨hits ++ more, ?_, fun hkeyed hit hhit => ?_⟩
  · rw [hmore, htold, List.flatMap_append, List.append_assoc]
  · rcases List.mem_append.1 hhit with hhit | hhit
    · exact hmay hkeyed hit hhit
    · exact hmay' hkeyed hit hhit

end Faithful

/-! ## §2. Scenes of a cast. -/

/-- A scene whose world a cast in a world may have come to. -/
def Follows (w : World) (s : Scene) : Prop := ∃ gain, c.Keeps (fun _ => True) gain w s.world

namespace Follows

variable {c}

theorem refl (s : Scene) : c.Follows s.world s := ⟨fun _ => 0, .refl _⟩

theorem step (h : c.Follows w s) (hstep : c.Keeps (fun _ => True) (fun _ => 1) s.world s'.world) :
    c.Follows w s' := by
  obtain ⟨_, hkept⟩ := h
  exact ⟨_, hkept.trans hstep⟩

/-- Whoever casts and whoever is hit goes by the same name throughout. -/
theorem hitActs_eq (h : c.Follows w s) (reported : Bool) (hit : CreatureId × Int32) :
    c.hitActs reported s.world hit = c.hitActs reported w hit := by
  obtain ⟨_, hkept⟩ := h
  -- an act holds the names of the two and nothing else that casts change
  have hname : ((s.world.creature? hit.1).map Creature.id) = (w.creature? hit.1).map Creature.id :=
    Creature.map_of_fixed (hkept.creature?_fixed hit.1) Creature.id fun _ => rfl
  have hreport : ∀ v : World, ((v.creature? hit.1).map fun t =>
      Act.target ((c.caster? v).map Creature.id) t.id hit.2)
        = ((v.creature? hit.1).map Creature.id).map fun id =>
          Act.target ((c.caster? v).map Creature.id) id hit.2 := by
    intro v
    rw [Option.map_map]
    rfl
  unfold hitActs
  rw [hreport, hreport, hname, hkept.caster_id_eq]

/-- Nor does the cast change whom it may affect. -/
theorem mayAffect_eq (h : c.Follows w s) (hkeyed : w.Keyed) (target : CreatureId) :
    c.mayAffect s.world target = c.mayAffect w target := by
  obtain ⟨_, hkept⟩ := h
  exact hkept.mayAffect_eq hkeyed target

end Follows

/-- **A run of steps,** of which each is faithful. -/
theorem faithful_foldl {α : Type} {f : Scene → α → Scene}
    (hkeeps : ∀ s a, c.Keeps (fun _ => True) (fun _ => 1) s.world (f s a).world)
    (hstep : ∀ s a, c.Follows w s → c.Faithful true w s (f s a)) (as : List α) :
    ∀ s, c.Follows w s → c.Faithful true w s (as.foldl f s) := by
  induction as with
  | nil => exact fun s _ => .refl s
  | cons a as ih => exact fun s h => (hstep s a h).trans (ih (f s a) (h.step (hkeeps s a)))

/-! ## §3. Creatures. -/

/-- Changes of the world are no acts. -/
@[simp] theorem told_change (s : Scene) (f : World → World) (kind : Act → Bool) :
    (s.change f).told kind = s.told kind := rfl

/-- **A creature is reported** where reports are asked for, if it is registered. -/
theorem told_report (hreports : c.combat.reportsTargets = true) (s : Scene) (target : CreatureId) :
    ∃ health, (c.report s target).told Act.ofCreature = s.told Act.ofCreature
      ++ (c.hitActs true s.world (target, health)).tail := by
  unfold report
  rw [hreports]
  cases ht : s.world.creature? target with
  | none =>
    refine ⟨0, ?_⟩
    rw [hitActs, if_pos rfl, ht]
    exact (List.append_nil _).symm
  | some t =>
    refine ⟨t.vitals.health, ?_⟩
    dsimp only
    rw [Scene.told_act, hitActs, if_pos rfl, ht]
    rfl

theorem told_apply (s : Scene) (target : CreatureId) (impact : Impact) :
    (c.apply s target impact).told Act.ofCreature
      = s.told Act.ofCreature ++ [.applied target] := Scene.told_act _ _ (.applied target)

/-- **An effect applied and reported** is a hit, whatever happened between but other hits. -/
theorem faithful_reported (hreports : c.combat.reportsTargets = true) {s₁ : Scene} {target : CreatureId}
    (h : c.Follows w s₁) (hmay : w.Keyed → c.mayAffect w target = true)
    (happlied : s₁.told Act.ofCreature = s.told Act.ofCreature ++ [.applied target]) :
    c.Faithful true w s (c.report s₁ target) := by
  obtain ⟨health, htold⟩ := c.told_report hreports s₁ target
  refine ⟨[(target, health)], ?_, fun hkeyed hit hhit => ?_⟩
  · rw [htold, happlied, h.hitActs_eq, List.append_assoc, List.flatMap_cons, List.flatMap_nil,
      List.append_nil]
    rfl
  · rw [List.mem_singleton.1 hhit]
    exact hmay hkeyed

/-- A creature that may be affected is hit. -/
theorem faithful_report_apply (hreports : c.combat.reportsTargets = true) (h : c.Follows w s)
    {target : CreatureId} (hmay : c.mayAffect s.world target = true) (impact : Impact) :
    c.Faithful true w s (c.report (c.apply s target impact) target) := by
  have happlied : c.Follows w (c.apply s target impact) := h.step (c.keeps_apply trivial s impact)
  refine c.faithful_reported hreports happlied (fun hkeyed => ?_) (c.told_apply s target impact)
  rw [← h.mayAffect_eq hkeyed, hmay]

theorem faithful_strike (hreports : c.combat.reportsTargets = true) (impact : Impact)
    (h : c.Follows w s) (target : CreatureId) : c.Faithful true w s (c.strike impact s target) := by
  unfold strike
  split
  · rename_i hmay
    have hhit := c.faithful_report_apply hreports h hmay impact
    dsimp only
    split
    · exact hhit
    · exact hhit
  · exact .refl s

/-! ## §4. Places. -/

theorem told_touchTile (s : Scene) (viewers : Nat) (p : Position) :
    (c.touchTile s viewers p).told Act.ofCreature = s.told Act.ofCreature := by
  unfold touchTile
  dsimp only
  split
  · rw [told_change, Scene.told_act]
    exact List.append_nil _
  · rfl

theorem faithful_resolveTile (hreports : c.combat.reportsTargets = true) (impact : Impact)
    (viewers : Nat) (h : c.Follows w s) (p : Position) :
    c.Faithful true w s (c.resolveTile impact viewers s p) := by
  unfold resolveTile
  split
  · exact .refl s
  · split
    · -- first the creatures of the tile are hit, then the tile is touched
      rename_i t _ _
      have hstruck := c.faithful_foldl (fun s _ => c.keeps_strike trivial s impact)
        (fun s target h => c.faithful_strike hreports impact h target) (c.takenFrom s.world p t) s h
      exact hstruck.trans (.of_told (c.told_touchTile _ viewers p))
    · exact .refl s

/-- **The hits of a cast on a place** are all reported. -/
theorem faithful_onPlace (hreports : c.combat.reportsTargets = true) (h : c.Follows w s)
    (target : Position) (impact : Impact) : c.Faithful true w s (c.onPlace s target impact) := by
  have hcovered : c.Follows w { s with world := (c.cover s.world target).2 } :=
    h.step (c.frame_cover s.world target)
  unfold onPlace
  dsimp only
  -- how many watch does not matter here
  generalize (World.spectators _ _ _ _).length = viewers
  have htiles := c.faithful_foldl
    (fun s _ => c.keeps_resolveTile impact viewers s (fun _ _ => trivial) fun _ => Nat.le_refl 1)
    (fun s p h => c.faithful_resolveTile hreports impact viewers h p) (c.cover s.world target).1 _
    hcovered
  exact htiles

/-! ## §5. Creatures by themselves. -/

theorem faithful_onMana (hreports : c.combat.reportsTargets = true) (h : c.Follows w s)
    (target : CreatureId) (bounds : Span) : c.Faithful true w s (c.onMana s target bounds) := by
  unfold onMana
  split
  · rename_i hmay
    exact c.faithful_report_apply hreports h hmay (.mana bounds)
  · exact .refl s

theorem faithful_withBlow (hreports : c.combat.reportsTargets = true) (h : c.Follows w s)
    (target : CreatureId) (impact : Impact) : c.Faithful true w s (c.withBlow s target impact) := by
  unfold withBlow
  split
  · rename_i hmay
    exact c.faithful_report_apply hreports h hmay impact
  · exact .refl s

/-- The tile of the creature is touched before the creature is reported. -/
theorem faithful_onPlain (hreports : c.combat.reportsTargets = true) (h : c.Follows w s)
    (target : CreatureId) : c.Faithful true w s (c.onPlain s target) := by
  unfold onPlain
  split
  · rename_i hmay
    split
    · exact .refl s
    · rename_i t _
      have happlied : c.Follows w (c.apply s target .plain) := h.step (c.keeps_apply trivial s .plain)
      have htouched := happlied.step
        (c.keeps_touchTile _ (s.world.viewers t.position) (p := t.position) (Nat.le_refl 1))
      have hhit := c.faithful_reported hreports htouched
        (fun hkeyed => (h.mayAffect_eq hkeyed target).symm.trans hmay)
        ((c.told_touchTile _ _ _).trans (c.told_apply s target .plain))
      exact hhit
  · exact .refl s

/-- **Health of one creature** is applied, and not reported. -/
theorem faithful_onHealth (h : c.Follows w s) (target : CreatureId) (bounds : Span) :
    c.Faithful false w s (c.onHealth s target bounds) := by
  have htold := c.told_apply s target (.health bounds)
  unfold onHealth
  generalize c.apply s target (.health bounds) = applied at htold ⊢
  split
  · rename_i hmay
    -- the health of a hit that is not reported does not matter
    refine ⟨[(target, 0)], htold, fun hkeyed hit hhit => ?_⟩
    rw [List.mem_singleton.1 hhit, ← h.mayAffect_eq hkeyed, hmay]
  · exact .refl s

/-- Finding out the change hits nobody. -/
theorem told_span (s : Scene) (target : Option CreatureId) :
    (c.span s target).2.told Act.ofCreature = s.told Act.ofCreature := by
  -- who asks a hook for its span leaves an act, but none of a creature
  have hasked : ∀ caster asked, (if c.combat.playerSpan.isSome then s.act (.asked caster asked)
      else s).told Act.ofCreature = s.told Act.ofCreature := by
    intro caster asked
    split
    · rw [Scene.told_act]
      exact List.append_nil _
    · rfl
  unfold span
  dsimp only
  split
  · rfl
  · split
    · rfl
    · split
      · split
        · exact hasked _ _
        · exact hasked _ _
      · rfl

theorem faithful_onCreature (hreports : c.combat.reportsTargets = true) (s : Scene)
    (target : CreatureId) :
    c.Faithful (c.settings.damageType = .none || c.settings.damageType = .manaDrain) s.world s
      (c.onCreature s target) := by
  have hspan : c.Follows s.world (c.spanOrZero s (some target)).2 :=
    (Follows.refl s).step (c.keeps_span s (some target))
  have htold : ∀ reported, c.Faithful reported s.world s (c.spanOrZero s (some target)).2 :=
    fun reported => .of_told (c.told_span s (some target))
  unfold onCreature
  split
  · rename_i hnone
    rw [hnone]
    exact c.faithful_onPlain hreports (.refl s) target
  · rename_i hkind
    dsimp only
    split
    · rename_i hdrain
      rw [hdrain]
      exact (htold true).trans (c.faithful_onMana hreports hspan target _)
    · rename_i hdrain
      rw [decide_eq_false hkind, decide_eq_false hdrain]
      exact (htold false).trans (c.faithful_onHealth hspan target _)

theorem faithful_atPlace (hreports : c.combat.reportsTargets = true) (s : Scene)
    (target : Position) : c.Faithful true s.world s (c.atPlace s target) := by
  have hspan : c.Follows s.world (c.spanOrZero s none).2 :=
    (Follows.refl s).step (c.keeps_span s none)
  have htold : c.Faithful true s.world s (c.spanOrZero s none).2 := .of_told (c.told_span s none)
  unfold atPlace
  split
  · exact c.faithful_onPlace hreports (.refl s) target .plain
  · exact htold.trans (c.faithful_onPlace hreports hspan target _)

/-! ## §6. Ways to cast. -/

/-- Whether a way to cast a combat reports whom it hits: all do, but for health of one creature. -/
def Entry.isReported (c : Cast) : Entry → Bool
  | .healthOn .. => false
  | .onCreature _ => c.settings.damageType = .none || c.settings.damageType = .manaDrain
  | _ => true

/-- **Whom a cast reports.**  A combat that reports its targets leaves, whichever way it is cast, its
    hits one after the other: each effect applied, and at once one report of the creature, if it is
    registered.  Only health of one creature is applied without a report.  And where creatures are
    registered under their own names, no hit is on one that was refused. -/
theorem faithful_enter (hreports : c.combat.reportsTargets = true) (s : Scene) (e : Entry) :
    c.Faithful (e.isReported c) s.world s (c.enter s e) := by
  cases e with
  | onCreature target => exact c.faithful_onCreature hreports s target
  | atPlace target => exact c.faithful_atPlace hreports s target
  | healthOn target bounds => exact c.faithful_onHealth (.refl s) target bounds
  | manaOn target bounds => exact c.faithful_onMana hreports (.refl s) target bounds
  | conditionsOn target => exact c.faithful_withBlow hreports (.refl s) target .conditions
  | dispelOn target => exact c.faithful_withBlow hreports (.refl s) target .dispel
  | plainOn target => exact c.faithful_onPlain hreports (.refl s) target
  | impactAt target impact => exact c.faithful_onPlace hreports (.refl s) target impact

/-- Falling rocks, which report whom they hit. -/
def rockfall : Cast :=
  ⟨{ settings := { damageType := .physical }, reportsTargets := true }, none⟩

/-- Rocks that fall on the tile of the duel hit the wolf and then the knight, and report both. -/
theorem faithful_enter_rockfall :
    rockfall.combat.reportsTargets = true
      ∧ rockfall.Faithful true duel ⟨duel, []⟩
        (rockfall.enter ⟨duel, []⟩ (.impactAt ⟨100, 100, 7⟩ (.health ⟨-7, -7⟩)))
      ∧ (rockfall.enter ⟨duel, []⟩ (.impactAt ⟨100, 100, 7⟩ (.health ⟨-7, -7⟩))).told Act.ofCreature
        = [.applied ⟨2⟩, .target none ⟨2⟩ 143, .applied ⟨1⟩, .target none ⟨1⟩ 143] :=
  ⟨rfl, rockfall.faithful_enter rfl ⟨duel, []⟩ (.impactAt ⟨100, 100, 7⟩ (.health ⟨-7, -7⟩)),
    by decide⟩

/-- **A rock that hits the wolf alone** is reported to nobody, by itself or with a given change. -/
theorem rock_unreported :
    rockfall.combat.reportsTargets = true
      ∧ (duel.creature? ⟨2⟩).map (·.vitals.health) = some 150
      ∧ ((rockfall.enter ⟨duel, []⟩ (.healthOn ⟨2⟩ ⟨-7, -7⟩)).world.creature? ⟨2⟩).map
        (·.vitals.health) = some 143
      ∧ (rockfall.enter ⟨duel, []⟩ (.healthOn ⟨2⟩ ⟨-7, -7⟩)).acts = [.applied ⟨2⟩]
      ∧ (rockfall.enter ⟨duel, []⟩ (.onCreature ⟨2⟩)).acts = [.applied ⟨2⟩] := by
  decide

end Cast

end Realm
