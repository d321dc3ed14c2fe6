/-
  Realm.Proofs.Combat.Resolution — a cast on a place goes by the world as it was when cast.

  A cast asks anew, for each tile and each creature, whether it may act there.  None of the answers
  hangs on what the cast does meanwhile, so it does what a plan says that is made beforehand: which
  tiles it acts on, and on each of them whom it affects.  What the cast did, what it told and what it
  left on the tiles are then read off the plan.

  Main statements:
  * `foldl_resolveTile_eq` — a run over tiles carries out the plan;
  * `onPlace_resolution` — a cast on a place, by the world that it was cast in.
-/
import Realm.Proofs.Combat.Frame
import Realm.Proofs.World.Consistency
import Realm.Proofs.World.History

namespace Realm

namespace Cast

variable (c : Cast)

/-! ## §1. The plan. -/

/-- The creatures of a tile that a cast takes: all of them, or one, which is the caster if it stands
    there and else the topmost. -/
def candidates (standing : List CreatureId) : List CreatureId :=
  if c.settings.casterOrTopmost then
    match c.caster with
    | some caster => if caster ∈ standing then [caster] else standing.head?.toList
    | none => standing.head?.toList
  else standing

/-- **Whom a cast affects on a place:** the creatures that it takes there, but for those that it may not
    affect. -/
def targetsAt (w : World) (p : Position) : List CreatureId :=
  (c.candidates (w.standing p)).filter (c.mayAffect w)

/-- Carries the plan of a world out on one tile. -/
def carryOut (impact : Impact) (viewers : Nat) (w : World) (s : Scene) (p : Position) : Scene :=
  c.touchTile ((c.targetsAt w p).foldl (c.land impact) s) viewers p

/-- In a consistent world, the caster is on a tile just when the tile lists it. -/
theorem takenFrom_eq {w : World} (h : w.Consistent) {p : Position} {t : Tile}
    (hp : w.tile? p = some t) : c.takenFrom w p t = c.candidates (w.standing p) := by
  have hstanding : w.standing p = t.creatures := by
    rw [World.standing, hp]
    rfl
  unfold takenFrom candidates caster?
  rw [hstanding]
  split
  · cases c.caster with
    | none => rfl
    | some id =>
      rw [Option.bind_some]
      cases hc : w.creature? id with
      | none =>
        have hout : id ∉ t.creatures := by
          intro hid
          rw [← hstanding] at hid
          obtain ⟨caster, hcaster, -⟩ := h.registered p id hid
          rw [hc] at hcaster
          cases hcaster
        dsimp only
        rw [if_neg hout]
        rfl
      | some caster =>
        have hthere := h.mem_standing_iff hc p
        rw [hstanding] at hthere
        dsimp only
        by_cases hplace : caster.position = p
        · have hfound : t.creatures.find? (· = id) = some id := by
            have hsome : (t.creatures.find? (· = id)).isSome = true := by
              rw [List.find?_isSome]
              exact ⟨id, hthere.2 hplace, decide_eq_true rfl⟩
            obtain ⟨found, hfound⟩ := Option.isSome_iff_exists.1 hsome
            have hid : decide (found = id) = true :=
              List.find?_some (p := fun other => decide (other = id)) hfound
            rw [hfound, of_decide_eq_true hid]
          rw [if_pos hplace, if_pos (hthere.2 hplace), hfound]
          rfl
        · rw [if_neg hplace, if_neg fun hid => hplace (hthere.1 hid)]
          rfl
  · rfl

/-! ## §2. What the plan hangs on. -/

section

variable {c} {hurt : CreatureId → Prop} {gain : Position → Nat} {w w' : World}

/-- The caster stands where it stood. -/
theorem Keeps.takenFrom_eq (h : c.Keeps hurt gain w w') (p : Position) (t : Tile) :
    c.takenFrom w' p t = c.takenFrom w p t := by
  have hcaster := c.caster?_fixed h
  unfold takenFrom
  cases hbefore : c.caster? w with
  | none =>
    rw [hbefore, Option.map_none, Option.map_eq_none_iff] at hcaster
    rw [hcaster]
  | some caster =>
    rw [hbefore] at hcaster
    obtain ⟨caster', hafter, hfixed⟩ := Option.map_eq_some_iff.1 hcaster
    have hplace : caster'.position = caster.position :=
      Creature.read_of_fixed hfixed Creature.position
    rw [hafter]
    cases c.caster with
    | none => rfl
    | some id =>
      dsimp only
      rw [hplace]

/-- A player that casts is marked under its own name only. -/
theorem not_marks_of_ne {casterId target : CreatureId} {caster : Creature} (hkeyed : w.Keyed)
    (hid : c.caster = some casterId) (hcaster : w.creature? casterId = some caster)
    (hplayer : caster.isPlayer = true) (hother : c.caster ≠ some target) : ¬ c.Marks w target := by
  rintro ⟨player, hcharge, rfl⟩
  have hself : (c.caster? w).bind w.playerInCharge = some caster := by
    rw [caster?, hid, Option.bind_some, hcaster, Option.bind_some, World.playerInCharge,
      if_pos hplayer]
  obtain rfl := Option.some.inj (hself.symm.trans hcharge)
  rw [hid, hkeyed casterId caster hcaster] at hother
  exact hother rfl

/-- Whether a cast may affect a creature hangs on what no frame changes, and on whether the skull of the
    caster bars it from its target. -/
theorem mayAffect_of_frame {marked armed : CreatureId → Prop} (h : w.Frame hurt marked armed gain w')
    {target : CreatureId}
    (hskull : ∀ id a a' t t', c.caster = some id → id ≠ target → w.creature? id = some a →
      a.Within (hurt id) (marked id) (armed id) w.Keyed a' → a.isPlayer = true →
      t.Within (hurt target) (marked target) (armed target) w.Keyed t' →
      World.barredByBlackSkull a' t' = World.barredByBlackSkull a t) :
    c.mayAffect w' target = c.mayAffect w target := by
  unfold mayAffect
  by_cases hself : c.caster = some target
  · simp only [hself, ne_eq, not_true_eq_false, decide_false, Bool.false_and]
  have hany : ((w'.creature? target).any fun t => (w'.verdictOnAttack (c.caster? w') t).isAllowed)
      = (w.creature? target).any fun t => (w.verdictOnAttack (c.caster? w) t).isAllowed := by
    have htarget := h.creature target
    generalize ht : w.creature? target = t? at htarget
    generalize ht' : w'.creature? target = t?' at htarget
    cases htarget with
    | none => rfl
    | @some t t' hwithin =>
      rw [Option.any_some, Option.any_some]
      congr 1
      unfold caster?
      cases hid : c.caster with
      | none => rfl
      | some id =>
        have hother : id ≠ target := fun hsame => hself (hsame ▸ hid)
        rw [Option.bind_some, Option.bind_some]
        have hcaster := h.creature id
        generalize ha : w.creature? id = a? at hcaster
        generalize ha' : w'.creature? id = a?' at hcaster
        cases hcaster with
        | none => rfl
        | @some a a' hcasterWithin =>
          exact h.verdictOnAttack_eq hcasterWithin.fixed hwithin.fixed fun hplayer =>
            hskull id a a' t t' hid hother ha hcasterWithin hplayer hwithin
  rw [hany]

/-- A change that marks nobody leaves it to a cast whom it may affect. -/
theorem mayAffect_of_unmarked {armed : CreatureId → Prop}
    (h : w.Frame hurt (fun _ => False) armed gain w') (target : CreatureId) :
    c.mayAffect w' target = c.mayAffect w target := by
  refine mayAffect_of_frame h fun _ _ _ _ _ _ _ _ hcaster _ htarget => ?_
  have hskull := (hcaster.unmarked not_false).1
  have hunmarked := htarget.unmarked not_false
  refine Creature.barredByBlackSkull_eq hcaster.fixed htarget.fixed ?_ hunmarked.1 hunmarked.2.1
  rw [hskull]

/-- **Whether a cast may affect a creature** stays what it was: the fight marks nobody but the caster's
    player, and gives or takes no black skull. -/
theorem Keeps.mayAffect_eq (h : c.Keeps hurt gain w w') (hkeyed : w.Keyed) (target : CreatureId) :
    c.mayAffect w' target = c.mayAffect w target := by
  refine mayAffect_of_frame h fun id a a' t t' hid hother ha hcaster hplayer htarget => ?_
  -- the target is not the caster's player, so its skull and its attacks stay
  have hself : c.caster ≠ some target := fun hsame => hother (Option.some.inj (hid.symm.trans hsame))
  have hunmarked := htarget.unmarked (not_marks_of_ne hkeyed hid ha hplayer hself)
  refine Creature.barredByBlackSkull_eq hcaster.fixed htarget.fixed ?_ hunmarked.1 hunmarked.2.1
  rcases hcaster.skull hkeyed with hsame | ⟨hnone, hwhite⟩
  · rw [hsame]
  · rw [hnone, hwhite]
    decide

/-- **The plan stays** what it was. -/
theorem Keeps.targetsAt_eq (h : c.Keeps hurt gain w w') (hkeyed : w.Keyed) (p : Position) :
    c.targetsAt w' p = c.targetsAt w p := by
  unfold targetsAt
  rw [World.Frame.standing_eq h]
  exact List.filter_congr fun id _ => h.mayAffect_eq hkeyed id

end

/-! ## §3. Runs that carry out the plan. -/

section

variable {hurt : CreatureId → Prop} {gain : Position → Nat} {w : World}

/-- A run over creatures affects those that the cast could affect before it. -/
theorem foldl_strike_eq (hkeyed : w.Keyed) (impact : Impact) (targets : List CreatureId) :
    ∀ s : Scene, c.Keeps (fun _ => True) gain w s.world →
      targets.foldl (c.strike impact) s
        = (targets.filter (c.mayAffect w)).foldl (c.land impact) s := by
  induction targets with
  | nil => exact fun s _ => rfl
  | cons target targets ih =>
    intro s h
    rw [List.foldl_cons, strike_eq, h.mayAffect_eq hkeyed]
    by_cases hmay : c.mayAffect w target = true
    · have hlanded : c.Keeps (fun _ => True) gain w (c.land impact s target).world :=
        h.trans_still (c.keeps_land trivial s impact)
      rw [if_pos hmay, List.filter_cons_of_pos hmay, List.foldl_cons]
      exact ih _ hlanded
    · rw [if_neg hmay, List.filter_cons_of_neg hmay]
      exact ih s h

/-- **A run over tiles carries out the plan:** it acts on the tiles that it could act on before it, and
    affects the creatures there that it could affect before it. -/
theorem foldl_resolveTile_eq (hw : w.Consistent) (impact : Impact) (viewers : Nat)
    (places : List Position) :
    ∀ (s : Scene) (gain : Position → Nat), places.Nodup →
      c.Keeps (fun _ => True) gain w s.world →
      (∀ p ∈ places, (w.tile? p).isSome = true ∧ s.world.tile? p = w.tile? p) →
      places.foldl (c.resolveTile impact viewers) s
        = (places.filter (c.actsOn w)).foldl (c.carryOut impact viewers w) s := by
  induction places with
  | nil => exact fun s gain _ _ _ => rfl
  | cons p places ih =>
    intro s gain hnodup h htiles
    obtain ⟨hnew, hnodup⟩ := List.nodup_cons.1 hnodup
    obtain ⟨hsome, hsame⟩ := htiles p List.mem_cons_self
    obtain ⟨t, ht⟩ := Option.isSome_iff_exists.1 hsome
    have hacts : c.actsOn s.world p = c.actsOn w p := c.actsOn_eq h hsame
    have hstep : c.resolveTile impact viewers s p
        = if c.actsOn w p then c.carryOut impact viewers w s p else s := by
      rw [resolveTile_eq, hsame, ht, hacts]
      dsimp only
      rw [h.takenFrom_eq, c.takenFrom_eq hw ht, c.foldl_strike_eq hw.keyed impact _ s h]
      rfl
    -- this tile may have gained an item by now; the places are distinct, so those to come have not
    have hframe : c.Keeps (fun _ => True) (fun q => if q = p then 1 else 0) s.world
        (c.resolveTile impact viewers s p).world := by
      refine c.keeps_resolveTile impact viewers s (fun _ _ => trivial) fun _ => ?_
      exact Nat.le_of_eq (if_pos rfl).symm
    have hrest : ∀ q ∈ places, (w.tile? q).isSome = true
        ∧ (c.resolveTile impact viewers s p).world.tile? q = w.tile? q := by
      intro q hq
      obtain ⟨hsome, hsame⟩ := htiles q (List.mem_cons_of_mem p hq)
      have hother : q ≠ p := fun heq => hnew (heq ▸ hq)
      refine ⟨hsome, ?_⟩
      rw [hframe.tile?_eq c (by rw [hsame, hsome]) (if_neg hother), hsame]
    have hrun := ih (c.resolveTile impact viewers s p) _ hnodup (h.trans hframe) hrest
    rw [List.foldl_cons, hrun, hstep]
    by_cases hp : c.actsOn w p = true
    · rw [if_pos hp, List.filter_cons_of_pos hp, List.foldl_cons]
    · rw [if_neg hp, List.filter_cons_of_neg hp]

end

/-! ## §4. What a cast did. -/

end Cast

/-- Whether an act is one of those that a plan speaks of: an effect applied, or a tile reported. -/
def Act.isStep : Act → Bool
  | .applied .. | .tile .. => true
  | .asked .. | .target .. => false

/-- The acts of a kind so far, in order. -/
def Scene.told (kind : Act → Bool) (s : Scene) : List Act := s.acts.reverse.filter kind

theorem Scene.told_act (kind : Act → Bool) (s : Scene) (a : Act) :
    (s.act a).told kind = s.told kind ++ if kind a then [a] else [] := by
  show (a :: s.acts).reverse.filter kind = s.acts.reverse.filter kind ++ _
  rw [List.reverse_cons, List.filter_append, List.filter_cons, List.filter_nil]

/-- The effects applied and the tiles reported so far, in order. -/
def Scene.steps (s : Scene) : List Act := s.acts.reverse.filter Act.isStep

theorem Scene.steps_act (s : Scene) (a : Act) :
    (s.act a).steps = s.steps ++ if a.isStep then [a] else [] := Scene.told_act Act.isStep s a

namespace Cast

variable (c : Cast)

/-- What a cast does on a tile that it acts on: it applies its effect to each creature of the plan once,
    and reports the tile once, if it reports tiles. -/
def stepsAt (w : World) (p : Position) : List Act :=
  (c.targetsAt w p).map .applied
    ++ if c.combat.reportsTiles then [.tile ((c.caster? w).map Creature.id) p] else []

theorem steps_land (impact : Impact) (s : Scene) (target : CreatureId) :
    (c.land impact s target).steps = s.steps ++ [.applied target] := by
  have happlied : (c.apply s target impact).steps = s.steps ++ [.applied target] :=
    Scene.steps_act _ (.applied target)
  have hreported : (c.report (c.apply s target impact) target).steps
      = s.steps ++ [.applied target] := by
    unfold report
    split
    · rw [Scene.steps_act, happlied]
      exact List.append_nil _
    · exact happlied
  unfold land
  dsimp only
  split
  · exact hreported
  · exact hreported

theorem steps_foldl_land (impact : Impact) (targets : List CreatureId) :
    ∀ s : Scene, (targets.foldl (c.land impact) s).steps = s.steps ++ targets.map .applied := by
  induction targets with
  | nil =>
    intro s
    exact (List.append_nil _).symm
  | cons target targets ih =>
    intro s
    rw [List.foldl_cons, ih, steps_land, List.append_assoc]
    rfl

section

variable {hurt : CreatureId → Prop} {gain : Position → Nat} {w : World} {s : Scene}

theorem keeps_foldl_land (impact : Impact) (targets : List CreatureId) :
    ∀ s : Scene, c.Keeps (fun _ => True) (fun _ => 0) s.world
      (targets.foldl (c.land impact) s).world := by
  induction targets with
  | nil => exact fun s => .refl s.world
  | cons target targets ih =>
    intro s
    have hhead : c.Keeps (fun _ => True) (fun _ => 0) s.world (c.land impact s target).world :=
      c.keeps_land trivial s impact
    exact hhead.trans_still (ih _)

theorem keeps_carryOut (impact : Impact) (viewers : Nat) (s : Scene) (p : Position) :
    c.Keeps (fun _ => True) (fun q => if q = p then 1 else 0) s.world
      (c.carryOut impact viewers w s p).world := by
  have hlanded := c.keeps_foldl_land impact (c.targetsAt w p) s
  have htouched : c.Keeps (fun _ => True) (fun q => if q = p then 1 else 0)
      ((c.targetsAt w p).foldl (c.land impact) s).world (c.carryOut impact viewers w s p).world :=
    c.keeps_touchTile _ viewers (Nat.le_of_eq (if_pos rfl).symm)
  exact hlanded.still_trans htouched

/-- The caster goes by its name throughout. -/
theorem Keeps.caster_id_eq {w' : World} (h : c.Keeps hurt gain w w') :
    (c.caster? w').map Creature.id = (c.caster? w).map Creature.id :=
  Creature.map_of_fixed (c.caster?_fixed h) Creature.id fun _ => rfl

theorem steps_carryOut (h : c.Keeps (fun _ => True) gain w s.world) (impact : Impact)
    (viewers : Nat) (p : Position) :
    (c.carryOut impact viewers w s p).steps = s.steps ++ c.stepsAt w p := by
  have hlanded := h.trans_still (c.keeps_foldl_land impact (c.targetsAt w p) s)
  have hsteps := c.steps_foldl_land impact (c.targetsAt w p) s
  unfold carryOut
  -- from here only what the run over the creatures kept and did matters
  generalize (c.targetsAt w p).foldl (c.land impact) s = s' at hlanded hsteps
  have hlaid : c.Keeps (fun _ => True) (fun q => gain q + 1) w (c.layField s'.world p) :=
    hlanded.trans (c.frame_layField s'.world (Nat.le_refl 1))
  unfold touchTile stepsAt
  dsimp only
  rw [← List.append_assoc, ← hsteps]
  split
  · show ((s'.change fun w => c.layField w p).act _).steps = _
    rw [Scene.steps_act]
    show s'.steps ++ [Act.tile ((c.caster? (c.layField s'.world p)).map Creature.id) p] = _
    rw [hlaid.caster_id_eq]
  · exact (List.append_nil _).symm

/-- **The steps of a run** are those of its tiles, in order. -/
theorem steps_foldl_carryOut (impact : Impact) (viewers : Nat) (places : List Position) :
    ∀ (s : Scene) (gain : Position → Nat), c.Keeps (fun _ => True) gain w s.world →
      (places.foldl (c.carryOut impact viewers w) s).steps
        = s.steps ++ places.flatMap (c.stepsAt w) := by
  induction places with
  | nil =>
    intro s gain _
    exact (List.append_nil _).symm
  | cons p places ih =>
    intro s gain h
    rw [List.foldl_cons, ih _ _ (h.trans (c.keeps_carryOut impact viewers s p)),
      c.steps_carryOut h impact viewers p, List.append_assoc]
    rfl

/-! ## §5. What a cast left on the tiles. -/

/-- The item of a place is the same throughout. -/
theorem Keeps.laidItem_eq {w' : World} (h : c.Keeps hurt gain w w') (p : Position) :
    c.laidItem w' p = c.laidItem w p := by
  have hcharge := c.inCharge_fixed h
  have hfield : c.fieldItem w' p = c.fieldItem w p := by
    unfold fieldItem
    rw [h.rules, World.Frame.isNoPvp_eq h]
    cases hbefore : (c.caster? w).bind w.playerInCharge with
    | none =>
      rw [hbefore, Option.map_none, Option.map_eq_none_iff] at hcharge
      rw [hcharge]
    | some player =>
      rw [hbefore] at hcharge
      obtain ⟨player', hafter, hfixed⟩ := Option.map_eq_some_iff.1 hcharge
      have hlevel : player'.level = player.level := Creature.read_of_fixed hfixed Creature.level
      rw [hafter]
      dsimp only
      rw [hlevel]
  unfold laidItem
  rw [hfield, h.catalogue]

/-- The item that a tile gets, if the cast leaves items. -/
def itemsAt (w : World) (p : Position) : List Item :=
  if c.settings.itemId = 0 then [] else [World.onTile w.catalogue (c.laidItem w p)]

theorem tile?_touchTile {t : Tile} {p : Position} (h : c.Keeps hurt gain w s.world)
    (ht : s.world.tile? p = some t) (viewers : Nat) :
    (c.touchTile s viewers p).world.tile? p
      = some { t with items := t.items ++ c.itemsAt w p } := by
  have hshown : ∀ w : World, (c.showImpact w viewers p).tile? = w.tile? := by
    intro w
    unfold showImpact
    split <;> rfl
  have hlaid : (c.layField s.world p).tile? p = some { t with items := t.items ++ c.itemsAt w p } := by
    rw [layField_eq, itemsAt]
    split
    · rw [ht, List.append_nil]
    · rw [(World.laid_lay ht (c.uniqueId_laidItem _ p)).tile, if_pos rfl, h.catalogue, h.laidItem_eq]
  unfold touchTile
  dsimp only
  split
  · show (c.showImpact (c.layField s.world p) viewers p).tile? p = _
    rw [hshown, hlaid]
  · show (c.showImpact (c.layField s.world p) viewers p).tile? p = _
    rw [hshown, hlaid]

theorem tile?_carryOut {t : Tile} {p : Position} (h : c.Keeps (fun _ => True) gain w s.world)
    (ht : s.world.tile? p = some t) (impact : Impact) (viewers : Nat) :
    (c.carryOut impact viewers w s p).world.tile? p
      = some { t with items := t.items ++ c.itemsAt w p } := by
  have hlanded := c.keeps_foldl_land impact (c.targetsAt w p) s
  have hsame := hlanded.tile?_eq c (p := p) (by rw [ht]; rfl) rfl
  exact c.tile?_touchTile (h.trans_still hlanded) (hsame.trans ht) viewers

/-- **The tiles after a run:** each place that the run acts on has its item behind those that were
    there. -/
theorem tile?_foldl_carryOut (impact : Impact) (viewers : Nat) (places : List Position) :
    ∀ (s : Scene) (gain : Position → Nat), places.Nodup →
      c.Keeps (fun _ => True) gain w s.world → ∀ p t, s.world.tile? p = some t →
      (places.foldl (c.carryOut impact viewers w) s).world.tile? p
        = some { t with items := t.items ++ if p ∈ places then c.itemsAt w p else [] } := by
  induction places with
  | nil =>
    intro s gain _ _ p t ht
    rw [if_neg List.not_mem_nil, List.append_nil]
    exact ht
  | cons q places ih =>
    intro s gain hnodup h p t ht
    obtain ⟨hnew, hrest⟩ := List.nodup_cons.1 hnodup
    have hstep := c.keeps_carryOut (w := w) impact viewers s q
    rw [List.foldl_cons]
    by_cases hp : p = q
    · subst hp
      rw [ih _ _ hrest (h.trans hstep) p _ (c.tile?_carryOut h ht impact viewers), if_neg hnew,
        if_pos List.mem_cons_self, List.append_nil]
    · -- the step was at another place, so the tile is still the one the run began with
      have hsame := hstep.tile?_eq c (p := p) (by rw [ht]; rfl) (if_neg hp)
      have hmem : p ∈ q :: places ↔ p ∈ places := by
        rw [List.mem_cons]
        exact ⟨fun hin => hin.resolve_left hp, .inr⟩
      rw [ih _ _ hrest (h.trans hstep) p t (hsame.trans ht)]
      simp only [hmem]

/-! ## §6. What is told of a cast. -/

theorem tells_dispel (w : World) (target : CreatureId) :
    World.Tells Event.ofStrike w (c.dispel w target) := by
  unfold dispel
  split
  · exact .refl w
  · exact .modifyCreature _ _

theorem tells_afterChange (target : CreatureId) {changed : Bool × World} {w : World}
    (h : World.Tells Event.ofStrike w changed.2) :
    World.Tells Event.ofStrike w (c.afterChange target changed) := by
  unfold afterChange
  split
  · exact (h.trans (.modifyCreature _ _)).trans (c.tells_dispel _ target)
  · exact h

theorem tells_blow (w : World) (target : CreatureId) :
    World.Tells Event.ofStrike w (c.blow w target) := by
  unfold blow
  split
  · exact .refl w
  · split
    · exact (World.tells_attackedCreature w (fun _ _ _ => rfl) _ target).trans
        (World.tells_attacked _ target)
    · exact .refl w

/-- **An impact** tells of its creature only. -/
theorem tells_impactOn (w : World) (target : CreatureId) (impact : Impact) :
    World.Tells Event.ofStrike w (c.impactOn w target impact) := by
  have hroll : ∀ low high, World.Tells Event.ofStrike w (w.roll low high).2 :=
    fun low high => .of_events rfl
  cases impact with
  | health bounds =>
    show World.Tells Event.ofStrike w (c.applyHealth w target bounds)
    unfold applyHealth
    dsimp only
    have hhit := (hroll bounds.min bounds.max).trans
      (World.tells_blockHit (w.roll bounds.min bounds.max).2 target c.settings.damageType
        (w.roll bounds.min bounds.max).1)
    split
    · exact hhit
    · exact c.tells_afterChange target (hhit.trans (World.tells_changeHealth _ _ _ _ _))
  | mana bounds =>
    exact c.tells_afterChange target
      ((hroll bounds.min bounds.max).trans (World.tells_changeMana _ _ _ _))
  | conditions => exact .modifyCreature _ _
  | dispel => exact c.tells_dispel w target
  | plain =>
    have hadded : World.Tells Event.ofStrike w (c.addConditions w target) := .modifyCreature _ _
    exact (hadded.trans (c.tells_dispel _ target)).trans (c.tells_blow _ target)

theorem tells_foldl_land (impact : Impact) (targets : List CreatureId) :
    ∀ s : Scene, World.Tells Event.ofStrike s.world (targets.foldl (c.land impact) s).world := by
  induction targets with
  | nil => exact fun s => .refl s.world
  | cons target targets ih =>
    intro s
    have hreported : World.Tells Event.ofStrike s.world
        (c.report (c.apply s target impact) target).world := by
      rw [report_world]
      exact c.tells_impactOn s.world target impact
    have hhead : World.Tells Event.ofStrike s.world (c.land impact s target).world := by
      unfold land
      dsimp only
      split
      · exact hreported.trans (c.tells_blow _ target)
      · exact hreported
    exact hhead.trans (ih _)

/-- What is told of a tile that a cast acts on: the item that came to it and the effect shown there. -/
def tellsAt (w : World) (viewers : Nat) (p : Position) : List Event :=
  (if c.settings.itemId = 0 then [] else World.arrival w.catalogue p (c.laidItem w p))
    ++ if c.settings.impactEffect = Effect.none then []
      else [.magicEffect p c.settings.impactEffect viewers]

theorem history_touchTile {t : Tile} {p : Position} (h : c.Keeps hurt gain w s.world)
    (ht : s.world.tile? p = some t) (viewers : Nat) :
    (c.touchTile s viewers p).world.history = s.world.history ++ c.tellsAt w viewers p := by
  have hlaid : (c.layField s.world p).history = s.world.history
      ++ if c.settings.itemId = 0 then [] else World.arrival w.catalogue p (c.laidItem w p) := by
    rw [layField_eq]
    split
    · exact (List.append_nil _).symm
    · rw [(World.laid_lay ht (c.uniqueId_laidItem _ p)).history, h.catalogue, h.laidItem_eq]
  have hshown : (c.showImpact (c.layField s.world p) viewers p).history
      = s.world.history ++ c.tellsAt w viewers p := by
    rw [tellsAt, ← List.append_assoc, ← hlaid, showImpact]
    split
    · exact (List.append_nil _).symm
    · exact World.history_emit _ _
  unfold touchTile
  dsimp only
  split
  · exact hshown
  · exact hshown

/-- **The history of a run:** for each of its tiles what is told of the creatures there, and then of the
    tile. -/
theorem history_foldl_carryOut (impact : Impact) (viewers : Nat) (places : List Position) :
    ∀ (s : Scene) (gain : Position → Nat), places.Nodup →
      c.Keeps (fun _ => True) gain w s.world → (∀ p ∈ places, (s.world.tile? p).isSome = true) →
      ∃ struck : Position → List Event, (∀ p, ∀ e ∈ struck p, e.ofStrike = true)
        ∧ (places.foldl (c.carryOut impact viewers w) s).world.history
          = s.world.history ++ places.flatMap fun p => struck p ++ c.tellsAt w viewers p := by
  induction places with
  | nil => exact fun s gain _ _ _ =>
      ⟨fun _ => [], fun p e he => absurd he List.not_mem_nil, (List.append_nil _).symm⟩
  | cons p places ih =>
    intro s gain hnodup h htiles
    obtain ⟨hnew, hrest⟩ := List.nodup_cons.1 hnodup
    have hstep := c.keeps_carryOut (w := w) impact viewers s p
    have hlanded := c.keeps_foldl_land impact (c.targetsAt w p) s
    obtain ⟨told, htold, hkind⟩ := c.tells_foldl_land impact (c.targetsAt w p) s
    obtain ⟨t, ht⟩ := Option.isSome_iff_exists.1
      (hlanded.isSome_tile? c (htiles p List.mem_cons_self))
    have htouched := c.history_touchTile (h.trans_still hlanded) ht viewers
    rw [htold] at htouched
    obtain ⟨struck, hstruck, hhistory⟩ := ih (c.carryOut impact viewers w s p) _ hrest
      (h.trans hstep) fun q hq => hstep.isSome_tile? c (htiles q (List.mem_cons_of_mem p hq))
    refine ⟨fun q => if q = p then told else struck q, fun q e he => ?_, ?_⟩
    · dsimp only at he
      split at he
      · exact hkind e he
      · exact hstruck q e he
    · -- what is told of the strikes here does not get in the way of the other places
      have hothers : (places.flatMap fun q => struck q ++ c.tellsAt w viewers q)
          = places.flatMap fun q => (if q = p then told else struck q) ++ c.tellsAt w viewers q := by
        rw [List.flatMap_def, List.flatMap_def]
        refine congrArg List.flatten (List.map_congr_left fun q hq => ?_)
        have hother : q ≠ p := fun heq => hnew (heq ▸ hq)
        rw [if_neg hother]
      rw [List.foldl_cons, hhistory, hothers, List.flatMap_cons]
      dsimp only
      show (c.touchTile ((c.targetsAt w p).foldl (c.land impact) s) viewers p).world.history ++ _ = _
      rw [htouched, if_pos rfl]
      simp only [List.append_assoc]

end

/-! ## §7. Casts on a place. -/

theorem tells_afterTiles (w : World) (target : Position) :
    World.Tells Event.ofAftermath w (c.afterTiles w target) := by
  have hshown : ∀ (effect : UInt8) (origin : Position), World.Tells Event.ofAftermath w
      (if effect = Effect.none then w else w.emit (.distanceEffect origin target effect)) := by
    intro effect origin
    split
    · exact .refl w
    · exact .emit rfl
  have hshot : World.Tells Event.ofAftermath w (c.shoot w target) := by
    unfold shoot
    split
    · exact .refl w
    · exact hshown _ _
  unfold afterTiles
  dsimp only
  split
  · split
    · exact hshot.trans (World.tells_extendFight _ (fun _ _ _ => rfl) _ _ _)
    · exact hshot
  · exact hshot

/-- How many players see the effect that a cast shows on its tiles. -/
def audience (w : World) (target : Position) : Nat :=
  let (columns, rows) := reach target (c.cover w target).1
  ((c.cover w target).2.spectators target (columns + World.viewColumns)
    (rows + World.viewRows)).length

/-- **How a cast on a place resolves:** by the world that it was cast in. -/
structure Resolution (impact : Impact) (target : Position) (s s' : Scene) : Prop where
  /-- No tile is acted on twice. -/
  nodup_places : (c.actedPlaces s.world target).Nodup
  /-- No creature is affected twice. -/
  nodup_targets : ((c.actedPlaces s.world target).flatMap (c.targetsAt s.world)).Nodup
  /-- The plan is carried out from the world with a tile on every place, and asks nothing anew. -/
  scene : s' = ((c.actedPlaces s.world target).foldl
      (c.carryOut impact (c.audience s.world target) s.world)
      { s with world := (c.cover s.world target).2 }).change fun w => c.afterTiles w target
  /-- The effect is applied once to each creature of the plan, and each tile is reported once. -/
  steps : s'.steps = s.steps ++ (c.actedPlaces s.world target).flatMap (c.stepsAt s.world)
  /-- Each tile acted on gets its item once, and no other tile gets any. -/
  tile : ∀ p t, (c.cover s.world target).2.tile? p = some t → s'.world.tile? p
    = some { t with
        items := t.items ++ if p ∈ c.actedPlaces s.world target then c.itemsAt s.world p else [] }
  /-- For each tile the strikes are told of, then its item and its effect, once each. -/
  history : ∃ (struck : Position → List Event) (after : List Event),
    (∀ p, ∀ e ∈ struck p, e.ofStrike = true) ∧ (∀ e ∈ after, e.ofAftermath = true)
      ∧ s'.world.history = s.world.history
        ++ ((c.actedPlaces s.world target).flatMap fun p =>
          struck p ++ c.tellsAt s.world (c.audience s.world target) p) ++ after

theorem mem_of_mem_candidates {standing : List CreatureId} {id : CreatureId}
    (h : id ∈ c.candidates standing) : id ∈ standing := by
  have htop : id ∈ standing.head?.toList → id ∈ standing :=
    fun hid => List.mem_of_mem_head? (Option.mem_toList.1 hid)
  unfold candidates at h
  split at h
  · split at h
    · split at h
      · rename_i hin
        rw [List.mem_singleton.1 h]
        exact hin
      · exact htop h
    · exact htop h
  · exact h

theorem nodup_candidates {standing : List CreatureId} (h : standing.Nodup) :
    (c.candidates standing).Nodup := by
  have htop : standing.head?.toList.Nodup := by
    cases standing.head? with
    | none => exact List.nodup_nil
    | some id => exact List.pairwise_singleton _ id
  unfold candidates
  split
  · split
    · split
      · exact List.pairwise_singleton _ _
      · exact htop
    · exact htop
  · exact h

/-- Nobody is on two tiles, so nobody is in a plan twice. -/
theorem nodup_flatMap_targetsAt {w : World} (h : w.Consistent) {places : List Position}
    (hplaces : places.Nodup) : (places.flatMap (c.targetsAt w)).Nodup := by
  refine List.pairwise_flatMap.2 ⟨fun p _ => ?_, hplaces.imp fun {p q} hdistinct => ?_⟩
  · exact (c.nodup_candidates (h.nodup_standing p)).filter _
  · rintro id hid other hother rfl
    obtain ⟨creature, hcreature, hp⟩ := h.registered p id
      (c.mem_of_mem_candidates (List.mem_filter.1 hid).1)
    obtain ⟨same, hsame, hq⟩ := h.registered q id
      (c.mem_of_mem_candidates (List.mem_filter.1 hother).1)
    obtain rfl := Option.some.inj (hcreature.symm.trans hsame)
    exact hdistinct (hp.symm.trans hq)

/-- A cast on a place is a run over its tiles and what follows on it. -/
theorem onPlace_eq (s : Scene) (target : Position) (impact : Impact) :
    c.onPlace s target impact
      = ((c.cover s.world target).1.foldl (c.resolveTile impact (c.audience s.world target))
          { s with world := (c.cover s.world target).2 }).change fun w => c.afterTiles w target := by
  unfold onPlace audience
  rfl

/-- **A cast on a place goes by the world as it was when cast.** -/
theorem onPlace_resolution (s : Scene) (h : s.world.Consistent) (target : Position)
    (impact : Impact) : c.Resolution impact target s (c.onPlace s target impact) := by
  obtain ⟨hnodup, -, hworld⟩ := c.cover_spec s.world target
  have hquiet : (c.cover s.world target).2.history = s.world.history := by
    rw [hworld]
    rfl
  have hplaces : (c.actedPlaces s.world target).Nodup := hnodup.filter _
  have hcover : c.Keeps (fun _ => True) (fun _ => 0) s.world (c.cover s.world target).2 :=
    c.frame_cover s.world target
  have htiles : ∀ p ∈ (c.cover s.world target).1,
      ((c.cover s.world target).2.tile? p).isSome = true := fun p hp => c.isSome_tile?_cover hp
  -- the plan is the same whether it is made before or after the missing tiles were put
  have hplan : ∀ viewers, c.carryOut impact viewers (c.cover s.world target).2
      = c.carryOut impact viewers s.world := by
    intro viewers
    funext s' p
    rw [carryOut, carryOut, hcover.targetsAt_eq h.keyed]
  have hscene : c.onPlace s target impact = ((c.actedPlaces s.world target).foldl
      (c.carryOut impact (c.audience s.world target) s.world)
      { s with world := (c.cover s.world target).2 }).change fun w => c.afterTiles w target := by
    rw [onPlace_eq, c.foldl_resolveTile_eq (h.of_frame hcover) impact _ _ _ (fun _ => 0) hnodup
      (.refl _) fun p hp => ⟨htiles p hp, rfl⟩, hplan]
    rfl
  have hacted : ∀ p ∈ c.actedPlaces s.world target,
      ((c.cover s.world target).2.tile? p).isSome = true :=
    fun p hp => htiles p (List.mem_filter.1 hp).1
  have hsteps := c.steps_foldl_carryOut impact (c.audience s.world target)
    (c.actedPlaces s.world target) { s with world := (c.cover s.world target).2 } _ hcover
  have htile := c.tile?_foldl_carryOut impact (c.audience s.world target)
    (c.actedPlaces s.world target) { s with world := (c.cover s.world target).2 } _ hplaces hcover
  obtain ⟨struck, hstruck, hhistory⟩ := c.history_foldl_carryOut impact (c.audience s.world target)
    (c.actedPlaces s.world target) { s with world := (c.cover s.world target).2 } _ hplaces hcover
    hacted
  rw [hscene]
  generalize hrun : (c.actedPlaces s.world target).foldl
    (c.carryOut impact (c.audience s.world target) s.world)
    { s with world := (c.cover s.world target).2 } = run at hsteps htile hhistory
  constructor
  · exact hplaces
  · exact c.nodup_flatMap_targetsAt h hplaces
  · rw [hrun]
  · exact hsteps
  · intro p t ht
    -- what follows on the tiles leaves no item
    have hafter : c.Keeps (fun _ => True) (fun _ => 0) run.world (c.afterTiles run.world target) :=
      c.keeps_afterTiles run.world target
    have hrest := hafter.tile?_eq c (p := p) (by rw [htile p t ht]; rfl) rfl
    exact hrest.trans (htile p t ht)
  · -- putting the missing tiles told nothing
    obtain ⟨after, hafter, hkind⟩ := c.tells_afterTiles run.world target
    refine ⟨struck, after, hstruck, hkind, ?_⟩
    show (c.afterTiles run.world target).history = _
    rw [hafter, hhistory]
    show (c.cover s.world target).2.history ++ _ ++ after = _
    rw [hquiet]

/-- A wolf that has stepped onto a knight's tile. -/
def duel : World :=
  (((World.new .empty {} 0).addTile ⟨100, 100, 7⟩ {}).addCreature
    (.new ⟨1⟩ "knight" .player ⟨100, 100, 7⟩)).addCreature (.new ⟨2⟩ "wolf" .monster ⟨100, 100, 7⟩)

/-- The knight's blast, which leaves an item and shows an effect. -/
def blast : Cast := ⟨{ settings := { itemId := 5, impactEffect := 1 } }, some ⟨1⟩⟩

/-- The blast hits the wolf, and not the knight that stands under it. -/
theorem onPlace_resolution_duel :
    duel.Consistent
      ∧ blast.actedPlaces duel ⟨100, 100, 7⟩ = [⟨100, 100, 7⟩]
      ∧ blast.targetsAt duel ⟨100, 100, 7⟩ = [⟨2⟩]
      ∧ blast.Resolution .dispel ⟨100, 100, 7⟩ ⟨duel, []⟩
        (blast.onPlace ⟨duel, []⟩ ⟨100, 100, 7⟩ .dispel) := by
  have hduel : duel.Consistent :=
    (((World.consistent_new _ _ _).addTile _ _).addCreature _).addCreature _
  exact ⟨hduel, by decide, by decide,
    blast.onPlace_resolution ⟨duel, []⟩ hduel ⟨100, 100, 7⟩ .dispel⟩

end Cast

end Realm
