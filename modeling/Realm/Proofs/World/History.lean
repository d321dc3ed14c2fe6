/-
  Realm.Proofs.World.History — what is told of the changes of a world.

  A world's history only grows.  What hits, conditions and blows tell is told of creatures: it never
  speaks of items, and shows no effect but that of a hit that was blocked.

  Main statements:
  * `Tells.trans` — what is told adds up;
  * `tells_attackedCreature`, `tells_blockHit`, `tells_changeHealth` — what a strike may tell;
  * `tells_lay` — what laying an item may tell.
-/
import Realm.Proofs.World.Frame

namespace Realm

/-- Whether an event is one that a strike at a creature may tell. -/
def Event.ofStrike : Event → Bool
  | .magicEffect _ effect _ => effect == Effect.blockedHit
  | .healthChanged .. | .manaChanged .. | .hitBlocked .. | .inFight .. | .died .. => true
  | .distanceEffect .. | .itemAdded .. | .decayStarted .. => false

/-- Whether an event is one that follows on the tiles of a cast: its projectile, or a fight. -/
def Event.ofAftermath : Event → Bool
  | .distanceEffect .. | .inFight .. => true
  | _ => false

namespace World

/-! ## §1. Growing histories. -/

/-- **The history grows** by events of a kind. -/
def Tells (kind : Event → Bool) (w w' : World) : Prop :=
  ∃ told : List Event, w'.history = w.history ++ told ∧ ∀ e ∈ told, kind e = true

namespace Tells

variable {kind : Event → Bool} {w w' w'' : World}

/-- A change that tells nothing. -/
theorem of_events (h : w'.events = w.events) : Tells kind w w' := by
  refine ⟨[], ?_, fun e he => absurd he List.not_mem_nil⟩
  rw [history, history, h, List.append_nil]

theorem refl (w : World) : Tells kind w w := of_events rfl

/-- **What is told adds up.** -/
theorem trans (h : Tells kind w w') (h' : Tells kind w' w'') : Tells kind w w'' := by
  obtain ⟨told, hhistory, htold⟩ := h
  obtain ⟨more, hmore, hkind⟩ := h'
  refine ⟨told ++ more, ?_, fun e he => ?_⟩
  · rw [hmore, hhistory, List.append_assoc]
  · rcases List.mem_append.1 he with he | he
    · exact htold e he
    · exact hkind e he

theorem mono {kind' : Event → Bool} (h : Tells kind w w')
    (hkind : ∀ e, kind e = true → kind' e = true) : Tells kind' w w' := by
  obtain ⟨told, hhistory, htold⟩ := h
  exact ⟨told, hhistory, fun e he => hkind e (htold e he)⟩

theorem emit {e : Event} (he : kind e = true) : Tells kind w (w.emit e) := by
  refine ⟨[e], history_emit w e, fun e' he' => ?_⟩
  rw [List.mem_singleton.1 he']
  exact he

/-- A change of one creature tells nothing. -/
theorem modifyCreature (id : CreatureId) (f : Creature → Creature) :
    Tells kind w (w.modifyCreature id f) := of_events rfl

end Tells

/-! ## §2. Hits. -/

variable (w : World)

theorem tells_blockHit (target : CreatureId) (t : DamageType) (change : Int32) :
    Tells Event.ofStrike w (w.blockHit target t change).2 := by
  unfold blockHit
  split
  · exact .refl w
  · split
    · exact .refl w
    · split
      · have hblocked : Tells Event.ofStrike w (w.emit (.hitBlocked target)) := .emit rfl
        exact hblocked.trans (.emit rfl)
      · exact .refl w

theorem tells_changeHealth (attacker : Option CreatureId) (target : CreatureId) (t : DamageType)
    (change : Int32) : Tells Event.ofStrike w (w.changeHealth attacker target t change).2 := by
  unfold changeHealth
  split
  · exact .refl w
  · rename_i c _
    split
    · exact .refl w
    · have hchanged : Tells Event.ofStrike w ((w.modifyCreature target fun d =>
          { d with vitals := (c.vitals.changeHealth t change).2 }).emit
          (.healthChanged attacker target t (c.vitals.changeHealth t change).1)) :=
        (Tells.modifyCreature _ _).trans (.emit rfl)
      dsimp only
      split
      · exact hchanged.trans (.emit rfl)
      · exact hchanged

theorem tells_changeMana (attacker : Option CreatureId) (target : CreatureId) (change : Int32) :
    Tells Event.ofStrike w (w.changeMana attacker target change).2 := by
  unfold changeMana
  split
  · exact .refl w
  · split
    · exact .refl w
    · exact (Tells.modifyCreature _ _).trans (.emit rfl)

/-! ## §3. Fights. -/

theorem tells_noteAttack {kind : Event → Bool} (attacker target : CreatureId) :
    Tells kind w (w.noteAttack attacker target) := by
  rcases noteAttack_cases w attacker target with hsame | ⟨_, _, _, _, _, hchanged⟩
  · rw [hsame]
    exact .refl w
  · rw [hchanged]
    exact .modifyCreature _ _

theorem tells_extendFight {kind : Event → Bool}
    (hkind : ∀ player ticks locked, kind (.inFight player ticks locked) = true) (id : CreatureId)
    (ticks : UInt32) (lock : Bool) : Tells kind w (w.extendFight id ticks lock) := by
  unfold extendFight
  split
  · exact .refl w
  · split
    · exact (Tells.of_events rfl).trans (.emit (hkind _ _ _))
    · exact .refl w

theorem tells_attackedCreature {kind : Event → Bool}
    (hkind : ∀ player ticks locked, kind (.inFight player ticks locked) = true)
    (attacker target : CreatureId) : Tells kind w (w.attackedCreature attacker target) := by
  unfold attackedCreature
  dsimp only
  split
  · exact (tells_noteAttack w attacker target).trans (tells_extendFight _ hkind _ _ _)
  · exact tells_noteAttack w attacker target

theorem tells_attacked (target : CreatureId) : Tells Event.ofStrike w (w.attacked target) := by
  unfold attacked
  split
  · exact tells_extendFight w (fun _ _ _ => rfl) _ _ _
  · exact .refl w

/-! ## §4. Items. -/

theorem tells_startDecay {kind : Event → Bool} (hdecay : ∀ p id, kind (.decayStarted p id) = true)
    (p : Position) (id : UInt16) : Tells kind w (w.startDecay p id) := by
  unfold startDecay
  dsimp only
  split
  · exact .refl w
  · exact (Tells.of_events rfl).trans (.emit (hdecay p id))

theorem tells_lay {kind : Event → Bool} (hadded : ∀ p id, kind (.itemAdded p id) = true)
    (hdecay : ∀ p id, kind (.decayStarted p id) = true) (p : Position) (item : Item) :
    Tells kind w (w.lay p item) := by
  have hlaid : Tells kind w (w.layItem p item).2 := by
    unfold layItem
    split
    · exact .refl w
    · exact (Tells.of_events rfl).trans (.emit (hadded p item.id))
  unfold lay
  split
  · exact hlaid.trans (tells_startDecay _ hdecay p item.id)
  · exact hlaid

end World

end Realm
