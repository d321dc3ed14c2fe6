/-
  Realm.Proofs.World.Frame — what a change leaves of a world.

  A frame says how far one world may differ from another: which creatures may be hurt, marked or armed
  anew, and how many items each place may gain.  All else stays.  Frames compose, so a run of changes is
  framed by what its steps may do, and each change of a world has one lemma that frames it.

  Main statements:
  * `Frame.trans` — frames compose, and the items they allow add up;
  * `laid_lay` — laying an item and starting its decay touches no item that was there.
-/
import Realm.Proofs.Footprint.Cover
import Realm.Proofs.Item.Reload
import Realm.World.Change
import Realm.World.Fight

namespace Realm

/-! ## §1. Creatures. -/

namespace Creature

/-- What of a creature no combat changes: the creature with all else wiped out. -/
def fixed (c : Creature) : Creature :=
  { c with
    vitals := { c.vitals with health := 0, mana := 0 }
    conditions := []
    skull := .none
    attacked := {}
    protectionLocked := false
    weapon := none }

/-- **How far a creature may differ** from what it was: in health, mana and conditions when it may be
    hurt; in what a fight marks a player with when it may be marked; in its weapon when that may be
    worn.  Where creatures are registered under their own names, a skull is only ever earned, and then a
    white one. -/
structure Within (hurt marked armed keyed : Prop) (c c' : Creature) : Prop where
  fixed : c'.fixed = c.fixed
  unhurt : ¬ hurt → c'.vitals = c.vitals ∧ c'.conditions = c.conditions
  unmarked : ¬ marked → c'.skull = c.skull ∧ c'.attacked = c.attacked
    ∧ c'.protectionLocked = c.protectionLocked
  unarmed : ¬ armed → c'.weapon = c.weapon
  skull : keyed → c'.skull = c.skull ∨ c.skull = .none ∧ c'.skull = .white

section

variable {α : Type} {c c' d d' : Creature}

/-- What is read off the part that no combat changes is the same. -/
theorem read_of_fixed (hc : c'.fixed = c.fixed) (read : Creature → α) :
    read c'.fixed = read c.fixed := congrArg read hc

theorem read₂_of_fixed (hc : c'.fixed = c.fixed) (hd : d'.fixed = d.fixed)
    (read : Creature → Creature → α) : read c'.fixed d'.fixed = read c.fixed d.fixed := by
  rw [hc, hd]

/-- What is read off the fixed part is the same of creatures that may be missing. -/
theorem map_of_fixed {m m' : Option Creature} (h : m'.map fixed = m.map fixed) (read : Creature → α)
    (hread : ∀ c, read c.fixed = read c) : m'.map read = m.map read := by
  have hwiped : ∀ m : Option Creature, m.map read = (m.map fixed).map read := by
    intro m
    cases m with
    | none => rfl
    | some c => exact congrArg some (hread c).symm
  rw [hwiped, h, ← hwiped]

end

namespace Within

variable {hurt marked armed keyed hurt' marked' armed' keyed' : Prop} {c c' c'' : Creature}

theorem refl (c : Creature) : Within hurt marked armed keyed c c where
  fixed := rfl
  unhurt _ := ⟨rfl, rfl⟩
  unmarked _ := ⟨rfl, rfl, rfl⟩
  unarmed _ := rfl
  skull _ := .inl rfl

theorem trans (h : Within hurt marked armed keyed c c') (h' : Within hurt marked armed keyed c' c'') :
    Within hurt marked armed keyed c c'' where
  fixed := h'.fixed.trans h.fixed
  unhurt hno := ⟨(h'.unhurt hno).1.trans (h.unhurt hno).1, (h'.unhurt hno).2.trans (h.unhurt hno).2⟩
  unmarked hno := by
    obtain ⟨hskull, hattacked, hlock⟩ := h.unmarked hno
    obtain ⟨hskull', hattacked', hlock'⟩ := h'.unmarked hno
    exact ⟨hskull'.trans hskull, hattacked'.trans hattacked, hlock'.trans hlock⟩
  unarmed hno := (h'.unarmed hno).trans (h.unarmed hno)
  skull hkeyed := by
    -- a white skull is not earned again
    rcases h.skull hkeyed with hsame | ⟨hnone, hwhite⟩
    · rw [← hsame]
      exact h'.skull hkeyed
    · rcases h'.skull hkeyed with hsame | ⟨hnone', -⟩
      · exact .inr ⟨hnone, hsame.trans hwhite⟩
      · rw [hwhite] at hnone'
        cases hnone'

theorem mono (h : Within hurt marked armed keyed c c') (hhurt : hurt → hurt')
    (hmarked : marked → marked') (harmed : armed → armed') (hkeyed : keyed' → keyed) :
    Within hurt' marked' armed' keyed' c c' where
  fixed := h.fixed
  unhurt hno := h.unhurt fun hyes => hno (hhurt hyes)
  unmarked hno := h.unmarked fun hyes => hno (hmarked hyes)
  unarmed hno := h.unarmed fun hyes => hno (harmed hyes)
  skull hyes := h.skull (hkeyed hyes)

theorem id_eq (h : Within hurt marked armed keyed c c') : c'.id = c.id := read_of_fixed h.fixed id

theorem position_eq (h : Within hurt marked armed keyed c c') : c'.position = c.position :=
  read_of_fixed h.fixed position

end Within

end Creature

/-! ## §2. Tiles. -/

/-- **How far a place may differ** from what it was: its tile, or a placeholder when there was none,
    may have so many new items behind its own. -/
def Tile.Grows (n : Nat) (t t' : Option Tile) : Prop :=
  t = none ∧ t' = none
    ∨ ∃ added : List Item, added.length ≤ n
      ∧ t' = some { t.getD .placeholder with items := (t.getD .placeholder).items ++ added }

namespace Tile.Grows

variable {n m : Nat} {t t' t'' : Option Tile}

theorem refl (t : Option Tile) : Grows n t t := by
  cases t with
  | none => exact .inl ⟨rfl, rfl⟩
  | some t =>
    refine .inr ⟨[], Nat.zero_le n, ?_⟩
    rw [Option.getD_some, List.append_nil]

theorem mono (h : Grows n t t') (hle : n ≤ m) : Grows m t t' := by
  rcases h with hnone | ⟨added, hadded, htile⟩
  · exact .inl hnone
  · exact .inr ⟨added, by omega, htile⟩

theorem trans (h : Grows n t t') (h' : Grows m t' t'') : Grows (n + m) t t'' := by
  rcases h with ⟨rfl, rfl⟩ | ⟨added, hadded, rfl⟩
  · exact h'.mono (Nat.le_add_left m n)
  · rcases h' with ⟨hnone, -⟩ | ⟨more, hmore, rfl⟩
    · cases hnone
    · refine .inr ⟨added ++ more, ?_, ?_⟩
      · rw [List.length_append]
        omega
      · rw [Option.getD_some, List.append_assoc]

/-- A place that may gain nothing has the tile that it had, or a placeholder now. -/
theorem eq_of_zero (h : Grows 0 t t') : t' = t ∨ t = none ∧ t' = some .placeholder := by
  rcases h with ⟨rfl, rfl⟩ | ⟨added, hadded, rfl⟩
  · exact .inl rfl
  · obtain rfl := List.eq_nil_of_length_eq_zero (Nat.le_zero.1 hadded)
    rw [List.append_nil]
    cases t with
    | none => exact .inr ⟨rfl, rfl⟩
    | some t => exact .inl rfl

end Tile.Grows

/-! ## §3. Worlds. -/

/-! ### Values that may be missing -/

section

variable {α β γ : Type} {R S : α → β → Prop} {a : Option α} {b : Option β}

/-- A value that may be missing is related to itself. -/
theorem rel_refl {R : α → α → Prop} (h : ∀ x, R x x) (a : Option α) : Option.Rel R a a := by
  cases a with
  | none => exact .none
  | some x => exact .some (h x)

/-- What follows for values that are there follows for values that may be missing. -/
theorem rel_imp (h : Option.Rel R a b) (himp : ∀ x y, R x y → S x y) : Option.Rel S a b := by
  cases h with
  | none => exact .none
  | some hxy => exact .some (himp _ _ hxy)

theorem rel_comp {R' : β → γ → Prop} {T : α → γ → Prop} {c : Option γ} (h : Option.Rel R a b)
    (h' : Option.Rel R' b c) (hcomp : ∀ x y z, R x y → R' y z → T x z) : Option.Rel T a c := by
  cases h with
  | none =>
    cases h'
    exact .none
  | some hxy =>
    cases h' with
    | some hyz => exact .some (hcomp _ _ _ hxy hyz)

theorem exists_left_of_rel {y : β} (h : Option.Rel R a b) (hb : b = some y) :
    ∃ x, a = some x ∧ R x y := by
  subst hb
  cases h with
  | some hxy => exact ⟨_, rfl, hxy⟩

theorem exists_right_of_rel {x : α} (h : Option.Rel R a b) (ha : a = some x) :
    ∃ y, b = some y ∧ R x y := by
  subst ha
  cases h with
  | some hxy => exact ⟨_, rfl, hxy⟩

/-- What is kept of related values is related, if both are kept alike. -/
theorem rel_filter {p : α → Bool} {q : β → Bool} (h : Option.Rel R a b)
    (hsame : ∀ x y, R x y → q y = p x) : Option.Rel R (a.filter p) (b.filter q) := by
  cases h with
  | none => exact .none
  | some hxy =>
    rw [Option.filter_some, Option.filter_some, hsame _ _ hxy]
    split
    · exact .some hxy
    · exact .none

theorem isSome_eq_of_rel (h : Option.Rel R a b) : b.isSome = a.isSome := by
  cases h <;> rfl

/-- What related values agree on. -/
theorem map_eq_of_rel {f : α → γ} {g : β → γ} (h : Option.Rel R a b)
    (heq : ∀ x y, R x y → g y = f x) : b.map g = a.map f := by
  cases h with
  | none => rfl
  | some hxy => exact congrArg some (heq _ _ hxy)

end

namespace World

/-- Every creature is registered under its own name. -/
def Keyed (w : World) : Prop := ∀ id c, w.creature? id = some c → c.id = id

/-- **How far a world may differ** from what it was: which creatures may be hurt, marked and armed, and
    how many items each place may gain. -/
structure Frame (hurt marked armed : CreatureId → Prop) (gain : Position → Nat) (w w' : World) :
    Prop where
  rules : w'.rules = w.rules
  catalogue : w'.catalogue = w.catalogue
  creature : ∀ id, Option.Rel (Creature.Within (hurt id) (marked id) (armed id) w.Keyed)
    (w.creature? id) (w'.creature? id)
  tile : ∀ p, Tile.Grows (gain p) (w.tile? p) (w'.tile? p)

/-! ### Reading a changed world -/

/-- A change under one key is seen under that key only. -/
theorem lookup_modify {κ β : Type} [Ord κ] [Std.TransOrd κ] [Std.LawfulEqOrd κ] [DecidableEq κ]
    (m : Std.ExtTreeMap κ β) (k k' : κ) (f : β → β) :
    (m.modify k f)[k']? = if k = k' then m[k']?.map f else m[k']? := by
  rw [Std.ExtTreeMap.getElem?_modify]
  by_cases hsame : k = k'
  · rw [if_pos hsame, if_pos (Std.compare_eq_iff_eq.2 hsame), hsame]
  · rw [if_neg hsame, if_neg fun h => hsame (Std.compare_eq_iff_eq.1 h)]

theorem creature?_modifyCreature (w : World) (id : CreatureId) (f : Creature → Creature)
    (id' : CreatureId) :
    (w.modifyCreature id f).creature? id'
      = if id = id' then (w.creature? id').map f else w.creature? id' :=
  lookup_modify w.creatures id id' f

/-- What a change of one creature leaves alone reads as before. -/
theorem map_creature?_modifyCreature {α : Type} {read : Creature → α} {f : Creature → Creature}
    (hsame : ∀ c, read (f c) = read c) (w : World) (id id' : CreatureId) :
    ((w.modifyCreature id f).creature? id').map read = (w.creature? id').map read := by
  rw [creature?_modifyCreature]
  split
  · rw [Option.map_map]
    exact congrArg (Option.map · _) (funext hsame)
  · rfl

theorem tile?_modifyTile (w : World) (p : Position) (f : Tile → Tile) (q : Position) :
    (w.modifyTile p f).tile? q = if p = q then (w.tile? q).map f else w.tile? q :=
  lookup_modify w.map.tiles p q f

namespace Frame

variable {hurt marked armed hurt' marked' armed' : CreatureId → Prop} {gain gain' : Position → Nat}
variable {w w' w'' : World}

/-- The same creatures. -/
theorem of_creatures (hcreatures : w'.creatures = w.creatures) (id : CreatureId) :
    Option.Rel (Creature.Within (hurt id) (marked id) (armed id) w.Keyed)
      (w.creature? id) (w'.creature? id) := by
  show Option.Rel _ (w.creatures[id]?) (w'.creatures[id]?)
  rw [hcreatures]
  exact rel_refl (.refl ·) _

/-- A change that leaves the creatures, the map and the rules alone. -/
theorem of_eq (hcreatures : w'.creatures = w.creatures) (hmap : w'.map = w.map)
    (hrules : w'.rules = w.rules) : Frame hurt marked armed gain w w' where
  rules := hrules
  catalogue := by
    rw [World.catalogue, World.catalogue, hmap]
  creature := of_creatures hcreatures
  tile p := by
    rw [World.tile?, World.tile?, hmap]
    exact .refl _

theorem refl (w : World) : Frame hurt marked armed gain w w := .of_eq rfl rfl rfl

theorem mono (h : Frame hurt marked armed gain w w') (hhurt : ∀ id, hurt id → hurt' id)
    (hmarked : ∀ id, marked id → marked' id) (harmed : ∀ id, armed id → armed' id)
    (hgain : ∀ p, gain p ≤ gain' p) : Frame hurt' marked' armed' gain' w w' where
  rules := h.rules
  catalogue := h.catalogue
  creature id := rel_imp (h.creature id) fun _ _ hwithin =>
    hwithin.mono (hhurt id) (hmarked id) (harmed id) fun hyes => hyes
  tile p := (h.tile p).mono (hgain p)

/-- Creatures stay registered under their own names. -/
theorem keyed (h : Frame hurt marked armed gain w w') (hkeyed : w.Keyed) : w'.Keyed := by
  intro id c' hc'
  obtain ⟨c, hc, hwithin⟩ := exists_left_of_rel (h.creature id) hc'
  rw [hwithin.id_eq, hkeyed id c hc]

/-- **Frames compose,** and the items they allow add up. -/
theorem trans (h : Frame hurt marked armed gain w w') (h' : Frame hurt marked armed gain' w' w'') :
    Frame hurt marked armed (fun p => gain p + gain' p) w w'' where
  rules := h'.rules.trans h.rules
  catalogue := h'.catalogue.trans h.catalogue
  creature id := rel_comp (h.creature id) (h'.creature id) fun _ _ _ hwithin hwithin' =>
    -- the second step knows the names in the world between, which the first step keeps
    hwithin.trans (hwithin'.mono (·) (·) (·) h.keyed)
  tile p := (h.tile p).trans (h'.tile p)

/-- A step that adds no items composes without changing what a place may gain. -/
theorem trans_still (h : Frame hurt marked armed gain w w')
    (h' : Frame hurt marked armed (fun _ => 0) w' w'') : Frame hurt marked armed gain w w'' :=
  h.trans h'

/-- A change of one creature. -/
theorem modifyCreature (id : CreatureId) (f : Creature → Creature)
    (h : ∀ c, w.creature? id = some c →
      Creature.Within (hurt id) (marked id) (armed id) w.Keyed c (f c)) :
    Frame hurt marked armed gain w (w.modifyCreature id f) where
  rules := rfl
  catalogue := rfl
  creature id' := by
    rw [creature?_modifyCreature]
    by_cases hsame : id = id'
    · subst hsame
      rw [if_pos rfl]
      cases hid : w.creature? id with
      | none => exact .none
      | some c => exact .some (h c hid)
    · rw [if_neg hsame]
      exact rel_refl (.refl ·) _
  tile p := .refl _

theorem emit (e : Event) : Frame hurt marked armed gain w (w.emit e) := .of_eq rfl rfl rfl

/-- A change that puts items behind those of one tile. -/
theorem of_tile {p : Position} {t : Tile} (added : List Item) (hp : w.tile? p = some t)
    (hadded : added.length ≤ gain p) (hcreatures : w'.creatures = w.creatures)
    (hrules : w'.rules = w.rules) (hcatalogue : w'.catalogue = w.catalogue)
    (htile : ∀ q, w'.tile? q
      = if p = q then some { t with items := t.items ++ added } else w.tile? q) :
    Frame hurt marked armed gain w w' where
  rules := hrules
  catalogue := hcatalogue
  creature := of_creatures hcreatures
  tile q := by
    rw [htile]
    by_cases hsame : p = q
    · subst hsame
      rw [if_pos rfl, hp]
      exact .inr ⟨added, hadded, rfl⟩
    · rw [if_neg hsame]
      exact .refl _

end Frame

/-! ## §4. What happens to a world. -/

section

variable {hurt marked armed : CreatureId → Prop} {gain : Position → Nat} (w : World)

theorem frame_roll (min max : Int32) : Frame hurt marked armed gain w (w.roll min max).2 :=
  .of_eq rfl rfl rfl

theorem frame_blockHit (target : CreatureId) (t : DamageType) (change : Int32) :
    Frame hurt marked armed gain w (w.blockHit target t change).2 := by
  unfold blockHit
  split
  · exact .refl w
  · split
    · exact .refl w
    · split
      · exact .of_eq rfl rfl rfl
      · exact .refl w

/-- New vitals for a hurt creature, of the same limits and resistances. -/
theorem frame_setVitals {target : CreatureId} (hhurt : hurt target) {c : Creature}
    (hc : w.creature? target = some c) {vitals : Vitals}
    (hvitals : { vitals with health := 0, mana := 0 } = { c.vitals with health := 0, mana := 0 }) :
    Frame hurt marked armed gain w (w.modifyCreature target fun d => { d with vitals }) := by
  refine .modifyCreature target _ fun d hd => ?_
  obtain rfl : c = d := Option.some.inj (hc.symm.trans hd)
  refine ⟨?_, fun hno => absurd hhurt hno, fun _ => ⟨rfl, rfl, rfl⟩, fun _ => rfl, fun _ => .inl rfl⟩
  show { c.fixed with vitals := { vitals with health := 0, mana := 0 } } = c.fixed
  rw [hvitals]
  rfl

theorem frame_changeHealth {target : CreatureId} (hhurt : hurt target) (attacker : Option CreatureId)
    (t : DamageType) (change : Int32) :
    Frame hurt marked armed gain w (w.changeHealth attacker target t change).2 := by
  unfold changeHealth
  split
  · exact .refl w
  · rename_i c hc
    split
    · exact .refl w
    · have hset : Frame hurt marked armed gain w (w.modifyCreature target fun d =>
          { d with vitals := (c.vitals.changeHealth t change).2 }) :=
        frame_setVitals w hhurt hc rfl
      dsimp only
      split
      · exact hset.trans_still (.of_eq rfl rfl rfl)
      · exact hset.trans_still (.of_eq rfl rfl rfl)

theorem frame_changeMana {target : CreatureId} (hhurt : hurt target) (attacker : Option CreatureId)
    (change : Int32) : Frame hurt marked armed gain w (w.changeMana attacker target change).2 := by
  unfold changeMana
  split
  · exact .refl w
  · rename_i c hc
    split
    · exact .refl w
    · have hset : Frame hurt marked armed gain w (w.modifyCreature target fun d =>
          { d with vitals := (c.vitals.changeMana change).2 }) :=
        frame_setVitals w hhurt hc rfl
      exact hset.trans_still (.of_eq rfl rfl rfl)

/-! ### Fights -/

/-- A player who answers for a registered creature is registered. -/
theorem creature?_playerInCharge {w : World} (hkeyed : w.Keyed) {id : CreatureId} {c player : Creature}
    (hc : w.creature? id = some c) (hplayer : w.playerInCharge c = some player) :
    w.creature? player.id = some player := by
  unfold playerInCharge at hplayer
  split at hplayer
  · obtain rfl := Option.some.inj hplayer
    rw [hkeyed id c hc]
    exact hc
  · obtain ⟨hmaster, -⟩ := Option.filter_eq_some_iff.1 hplayer
    obtain ⟨master, -, hregistered⟩ := Option.bind_eq_some_iff.1 hmaster
    rw [hkeyed master player hregistered]
    exact hregistered

/-- **What putting an attack down can do:** nothing, or mark the attacker's player; and then the victim's
    player is another, and nothing excused the attack. -/
theorem noteAttack_spec (attacker target : CreatureId) :
    w.noteAttack attacker target = w
      ∨ ∃ a t player victim : Creature, w.creature? attacker = some a ∧ w.creature? target = some t
        ∧ w.playerInCharge a = some player ∧ w.playerInCharge t = some victim
        ∧ player.id ≠ victim.id ∧ w.isUnprovoked player victim = true
        ∧ w.noteAttack attacker target = w.modifyCreature player.id fun c =>
          { c with
            attacked := c.attacked.insert victim.id
            skull := if player.skull = .none && victim.skull = .none then .white else c.skull } := by
  unfold noteAttack
  dsimp only
  split
  · exact .inl rfl
  · rename_i player victim hplayers
    simp only [Option.bind_eq_bind, Option.bind_eq_some_iff] at hplayers
    obtain ⟨a, ha, player', hplayer, t, ht, victim', hvictim, hpair⟩ := hplayers
    obtain ⟨rfl, rfl⟩ := Prod.mk.inj (Option.some.inj hpair)
    split
    · rename_i hmarks
      exact .inr ⟨a, t, player', victim', ha, ht, hplayer, hvictim, hmarks.1, hmarks.2, rfl⟩
    · exact .inl rfl

/-- Whom an attack marks, whoever was the victim. -/
theorem noteAttack_cases (attacker target : CreatureId) :
    w.noteAttack attacker target = w
      ∨ ∃ a player victim : Creature, w.creature? attacker = some a
        ∧ w.playerInCharge a = some player
        ∧ w.noteAttack attacker target = w.modifyCreature player.id fun c =>
          { c with
            attacked := c.attacked.insert victim.id
            skull := if player.skull = .none && victim.skull = .none then .white else c.skull } := by
  rcases w.noteAttack_spec attacker target with
    hsame | ⟨a, _, player, victim, ha, _, hplayer, _, _, _, hmarked⟩
  · exact .inl hsame
  · exact .inr ⟨a, player, victim, ha, hplayer, hmarked⟩

/-- **An attack is put down to the attacker's player,** and marks nobody else. -/
theorem frame_noteAttack (attacker target : CreatureId)
    (hmark : ∀ a player, w.creature? attacker = some a → w.playerInCharge a = some player →
      marked player.id) :
    Frame hurt marked armed gain w (w.noteAttack attacker target) := by
  rcases noteAttack_cases w attacker target with hsame | ⟨a, player, victim, ha, hplayer, hchanged⟩
  · rw [hsame]
    exact .refl w
  · rw [hchanged]
    refine .modifyCreature _ _ fun c hc => ⟨rfl, fun _ => ⟨rfl, rfl⟩, ?_, fun _ => rfl, ?_⟩
    · exact fun hno => absurd (hmark a player ha hplayer) hno
    · intro hkeyed
      -- the creature marked is the very player whose skull was looked at
      obtain rfl : player = c :=
        Option.some.inj ((creature?_playerInCharge hkeyed ha hplayer).symm.trans hc)
      show (if _ then _ else player.skull) = _ ∨ _ ∧ (if _ then _ else player.skull) = _
      split
      · rename_i hfirst
        simp only [Bool.and_eq_true, decide_eq_true_eq] at hfirst
        exact .inr ⟨hfirst.1, rfl⟩
      · exact .inl rfl

/-- Keeping a player in a fight only locks it out of protection zones, and only when it is to. -/
theorem frame_extendFight (id : CreatureId) (ticks : UInt32) (lock : Bool)
    (hmark : lock = true → marked id) :
    Frame hurt marked armed gain w (w.extendFight id ticks lock) := by
  unfold extendFight
  split
  · exact .refl w
  · rename_i c hc
    split
    · have hlock : Frame hurt marked armed gain w (w.modifyCreature id fun d =>
          { d with protectionLocked := c.protectionLocked || lock }) := by
        refine .modifyCreature id _ fun d hd => ?_
        obtain rfl : c = d := Option.some.inj (hc.symm.trans hd)
        refine ⟨rfl, fun _ => ⟨rfl, rfl⟩, fun hno => ⟨rfl, rfl, ?_⟩, fun _ => rfl, fun _ => .inl rfl⟩
        cases lock with
        | false => exact Bool.or_false _
        | true => exact absurd (hmark rfl) hno
      exact hlock.trans_still (.of_eq rfl rfl rfl)
    · exact .refl w

theorem frame_attackedCreature (attacker target : CreatureId)
    (hmark : ∀ a player, w.creature? attacker = some a → w.playerInCharge a = some player →
      marked player.id) :
    Frame hurt marked armed gain w (w.attackedCreature attacker target) := by
  have hnote : Frame hurt marked armed gain w (w.noteAttack attacker target) :=
    frame_noteAttack w attacker target hmark
  unfold attackedCreature
  dsimp only
  split
  · exact hnote.trans_still (frame_extendFight _ _ _ false nofun)
  · exact hnote

theorem frame_attacked (target : CreatureId) :
    Frame hurt marked armed gain w (w.attacked target) := by
  unfold attacked
  split
  · exact frame_extendFight w _ _ false nofun
  · exact .refl w

/-! ### Tiles and items -/

theorem tile?_ensureTile (p q : Position) :
    (w.ensureTile p).tile? q
      = if p = q then some ((w.tile? q).getD .placeholder) else w.tile? q :=
  w.map.tile?_ensureTile p q

/-- Nothing is changed in a list without an element of the kind. -/
theorem modifyFirst?_eq_none {α : Type} {p : α → Bool} {f : α → α} {xs : List α}
    (h : ∀ a ∈ xs, p a = false) : modifyFirst? p f xs = none := by
  induction xs with
  | nil => rfl
  | cons a rest ih =>
    have hhead : ¬ p a = true := by simp [h a List.mem_cons_self]
    rw [modifyFirst?, if_neg hhead, ih fun b hb => h b (List.mem_cons_of_mem a hb)]
    rfl

/-- A last element of the kind is the one changed. -/
theorem modifyLast?_append_of_pos {α : Type} {p : α → Bool} {f : α → α} {a : α} (xs : List α)
    (h : p a = true) : modifyLast? p f (xs ++ [a]) = some (xs ++ [f a]) := by
  rw [modifyLast?, List.reverse_append]
  show (modifyFirst? p f (a :: xs.reverse)).map List.reverse = _
  rw [modifyFirst?, if_pos h]
  simp

/-- An item that is not unique decays when any item of its id does. -/
theorem canDecay_of_id_eq {c : Catalogue} {i item : Item} (hnew : item.attributes.uniqueId = 0)
    (hid : i.id = item.id) (h : i.canDecay c = true) : item.canDecay c = true := by
  unfold Item.canDecay Item.type at *
  rw [hid] at h
  simp only [Bool.and_eq_true] at h ⊢
  exact ⟨⟨by rw [hnew]; rfl, h.1.2⟩, h.2⟩

/-- **Decay behind a new item:** it is the last of its id, so it is the one set to decay, if any. -/
theorem startDecay_of_last {p : Position} {t : Tile} {olds : List Item} {item : Item}
    (hp : w.tile? p = some t) (hitems : t.items = olds ++ [item])
    (hnew : item.attributes.uniqueId = 0) :
    w.startDecay p item.id
      = if item.canDecay w.catalogue then
          (w.modifyTile p fun t =>
            { t with items := olds ++ [item.setAttributes (·.setDecaying .pending)] }).emit
            (.decayStarted p item.id)
        else w := by
  unfold startDecay
  rw [hp, Option.bind_some, hitems]
  by_cases hdecays : item.canDecay w.catalogue = true
  · rw [modifyLast?_append_of_pos olds (by rw [hdecays, Bool.and_true]; exact beq_self_eq_true _),
      if_pos hdecays]
  · -- an older item of the same id could only decay if the new one could
    have hnone : ∀ i ∈ (olds ++ [item]).reverse,
        (i.id == item.id && i.canDecay w.catalogue) = false := by
      intro i _
      rw [Bool.and_eq_false_iff, beq_eq_false_iff_ne]
      by_cases hid : i.id = item.id
      · exact .inr (Bool.eq_false_iff.2 fun h => hdecays (canDecay_of_id_eq hnew hid h))
      · exact .inl hid
    rw [modifyLast?, modifyFirst?_eq_none hnone, if_neg hdecays]
    rfl

theorem layItem_of_tile {p : Position} {t : Tile} (hp : w.tile? p = some t) (item : Item) :
    w.layItem p item = (true, (w.modifyTile p (·.addItem item)).emit (.itemAdded p item.id)) := by
  unfold layItem
  rw [hp]

theorem tile?_addItem {p : Position} {t : Tile} (hp : w.tile? p = some t) (item : Item)
    (q : Position) :
    (w.modifyTile p (·.addItem item)).tile? q
      = if p = q then some { t with items := t.items ++ [item] } else w.tile? q := by
  rw [tile?_modifyTile]
  by_cases hsame : p = q
  · rw [if_pos hsame, if_pos hsame, ← hsame, hp]
    rfl
  · rw [if_neg hsame, if_neg hsame]

end

theorem history_emit (w : World) (e : Event) : (w.emit e).history = w.history ++ [e] :=
  List.reverse_cons

/-- What an item comes to on a tile: it decays if it can. -/
def onTile (types : Catalogue) (item : Item) : Item :=
  if item.canDecay types then item.setAttributes (·.setDecaying .pending) else item

/-- What is told of an item that comes to a tile. -/
def arrival (types : Catalogue) (p : Position) (item : Item) : List Event :=
  .itemAdded p item.id :: if item.canDecay types then [.decayStarted p item.id] else []

/-- **An item has come to a tile:** it stands behind the items there, it was told of, and nothing else
    changed. -/
structure Laid (p : Position) (t : Tile) (item : Item) (w w' : World) : Prop where
  creatures : w'.creatures = w.creatures
  rules : w'.rules = w.rules
  catalogue : w'.catalogue = w.catalogue
  tile : ∀ q, w'.tile? q
    = if p = q then some { t with items := t.items ++ [onTile w.catalogue item] } else w.tile? q
  history : w'.history = w.history ++ arrival w.catalogue p item

/-- Lays an item on a place, and starts its decay. -/
def lay (w : World) (p : Position) (item : Item) : World :=
  if (w.layItem p item).1 then (w.layItem p item).2.startDecay p item.id else (w.layItem p item).2

/-- **Laying an item and starting its decay** touches none of the items that were there. -/
theorem laid_lay {w : World} {p : Position} {t : Tile} {item : Item} (hp : w.tile? p = some t)
    (hnew : item.attributes.uniqueId = 0) : Laid p t item w (w.lay p item) := by
  have hplaces := tile?_addItem w hp item
  have hplace := hplaces p
  rw [if_pos rfl] at hplace
  have hhistory := history_emit (w.modifyTile p (·.addItem item)) (.itemAdded p item.id)
  rw [lay, layItem_of_tile w hp, if_pos rfl]
  generalize hlaid : (w.modifyTile p (·.addItem item)).emit (.itemAdded p item.id) = laid at hhistory
  have hsteps : laid.creatures = w.creatures ∧ laid.rules = w.rules ∧ laid.catalogue = w.catalogue
      ∧ laid.tile? = (w.modifyTile p (·.addItem item)).tile? := by
    rw [← hlaid]
    exact ⟨rfl, rfl, rfl, rfl⟩
  obtain ⟨hcreatures, hrules, hcatalogue, htiles⟩ := hsteps
  rw [← htiles] at hplaces hplace
  rw [startDecay_of_last laid hplace rfl hnew, hcatalogue]
  by_cases hdecays : item.canDecay w.catalogue = true
  · rw [if_pos hdecays]
    refine ⟨hcreatures, hrules, hcatalogue, fun q => ?_, ?_⟩
    · show (laid.modifyTile p _).tile? q = _
      rw [tile?_modifyTile, hplaces, onTile, if_pos hdecays]
      by_cases hsame : p = q
      · rw [if_pos hsame, if_pos hsame, if_pos hsame]
        rfl
      · rw [if_neg hsame, if_neg hsame, if_neg hsame]
    · rw [history_emit, arrival, if_pos hdecays]
      show laid.history ++ _ = _
      rw [hhistory, List.append_assoc]
      rfl
  · rw [if_neg hdecays]
    refine ⟨hcreatures, hrules, hcatalogue, fun q => ?_, ?_⟩
    · rw [hplaces, onTile, if_neg hdecays]
    · rw [hhistory, arrival, if_neg hdecays]
      rfl

/-- Laying an item changes the map and the history, and nothing else. -/
theorem exists_lay_eq (w : World) (p : Position) (item : Item) :
    ∃ map events, w.lay p item = { w with map, events } := by
  have hlaid : ∃ map events, (w.layItem p item).2 = { w with map, events } := by
    unfold layItem
    split
    · exact ⟨_, _, rfl⟩
    · exact ⟨_, _, rfl⟩
  have hdecay : ∀ v : World, ∃ map events, v.startDecay p item.id = { v with map, events } := by
    intro v
    unfold startDecay
    dsimp only
    split
    · exact ⟨_, _, rfl⟩
    · exact ⟨_, _, rfl⟩
  unfold lay
  split
  · obtain ⟨_, _, hlaid⟩ := hlaid
    obtain ⟨map, events, hdecay⟩ := hdecay (w.layItem p item).2
    rw [hdecay, hlaid]
    exact ⟨map, events, rfl⟩
  · exact hlaid

theorem frame_lay {hurt marked armed : CreatureId → Prop} {gain : Position → Nat} (w : World)
    {p : Position} {item : Item} (hgain : 1 ≤ gain p) (hnew : item.attributes.uniqueId = 0) :
    Frame hurt marked armed gain w (w.lay p item) := by
  cases hp : w.tile? p with
  | none =>
    unfold lay layItem
    rw [hp]
    exact .refl w
  | some t =>
    have hlaid := laid_lay hp hnew
    exact .of_tile [onTile w.catalogue item] hp hgain hlaid.creatures hlaid.rules hlaid.catalogue
      hlaid.tile

end World

end Realm
