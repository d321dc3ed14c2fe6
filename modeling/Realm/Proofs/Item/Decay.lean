/-
  Realm.Proofs.Item.Decay — what becomes of an item's decay when it is turned into other types.

  What a turn does hangs on the type left, on the type entered and on what the bag holds.  `Turned`
  lists the three things that can come of it, each with what the types say then, so that facts about a
  turn are case splits over it.  Where time stands still in every type left, and no type entered is a
  timeless one, only one of the three is left, for every turn of a chain.

  Main statements:
  * `turned_setId` — what a turn comes to;
  * `sameAt_turns_of_paused` — a chain of turns in which time stands still;
  * `turns_keep_decay` — the decay of an item, along any chain of turns.
-/
import Realm.Item.Basic
import Realm.Proofs.Item.Bag

namespace Realm

/-! ## §1. Types and their time. -/

namespace ItemType

/-- A timeless type has no decay time and no decay target, and time does not stand still in it. -/
structure Timeless (t : ItemType) : Prop where
  no_time : t.decayTimeSecs = 0
  no_target : t.decayTo = none
  runs : t.stopTime = false

/-- A decay time in milliseconds is a number that a signed word holds. -/
theorem toInt_decayMillis (t : ItemType) :
    t.decayMillis.toInt = (min t.decayTimeSecs.toNat maxDecaySecs * 1000 : Nat) := by
  refine Int32.toInt_ofNat_of_lt ?_
  unfold maxDecaySecs
  omega

/-- **The decay time of a type in milliseconds** is positive when the type has one. -/
theorem decayMillis_pos_iff (t : ItemType) : 0 < t.decayMillis ↔ t.decayTimeSecs ≠ 0 := by
  have hsecs : t.decayTimeSecs ≠ 0 ↔ 0 < t.decayTimeSecs.toNat := by
    rw [← UInt32.pos_iff_ne_zero, UInt32.lt_iff_toNat_lt]
    rfl
  have hzero : (0 : Int32).toInt = 0 := rfl
  rw [Int32.lt_iff_toInt_lt, toInt_decayMillis, hsecs, hzero]
  unfold maxDecaySecs
  omega

theorem decayMillis_eq_zero_iff (t : ItemType) : t.decayMillis = 0 ↔ t.decayTimeSecs = 0 := by
  have hsecs : t.decayTimeSecs = 0 ↔ t.decayTimeSecs.toNat = 0 := by
    rw [← UInt32.toNat_inj]
    rfl
  have hzero : (0 : Int32).toInt = 0 := rfl
  rw [← Int32.toInt_inj, toInt_decayMillis, hsecs, hzero]
  unfold maxDecaySecs
  omega

end ItemType

/-! ## §2. Bags that agree under an attribute. -/

namespace Bag

/-- **Two bags agree under an attribute:** it is in both of them or in neither, and holds the same. -/
structure SameAt (a : Attribute) (b b' : Bag) : Prop where
  has_eq : b'.has a = b.has a
  lookup_eq : b'.lookup a = b.lookup a

namespace SameAt

variable {a a' : Attribute} {b b' b'' : Bag}

theorem refl (a : Attribute) (b : Bag) : SameAt a b b := ⟨rfl, rfl⟩

theorem trans (h : SameAt a b b') (h' : SameAt a b' b'') : SameAt a b b'' :=
  ⟨h'.has_eq.trans h.has_eq, h'.lookup_eq.trans h.lookup_eq⟩

/-- A write under another attribute is not seen. -/
theorem put (h : SameAt a b b') (ha : a' ≠ a) (v : AttributeValue) : SameAt a b (b'.put a' v) where
  has_eq := by rw [has_put, decide_eq_false ha, Bool.or_false, h.has_eq]
  lookup_eq := by rw [lookup_put, if_neg ha, h.lookup_eq]

/-- A removal under another attribute is not seen. -/
theorem remove (h : SameAt a b b') (ha : a' ≠ a) : SameAt a b (b'.remove a') where
  has_eq := by rw [has_remove, decide_eq_false ha, Bool.not_false, Bool.and_true, h.has_eq]
  lookup_eq := by rw [lookup_remove, if_neg ha, h.lookup_eq]

end SameAt

theorem has_put_self (b : Bag) (a : Attribute) (v : AttributeValue) : (b.put a v).has a = true := by
  rw [has_put, decide_eq_true rfl, Bool.or_true]

theorem has_remove_self (b : Bag) (a : Attribute) : (b.remove a).has a = false := by
  rw [has_remove, decide_eq_true rfl, Bool.not_true, Bool.and_false]

end Bag

/-! ## §3. One turn. -/

namespace Item

/-- The attributes of an item whose decay begins anew. -/
def restarted (b : Bag) (t : ItemType) : Bag :=
  ((b.remove .corpseOwner).put .decaying (.number DecayState.idle.toNumber)).put .duration
    (.number t.decayMillis)

/-- The attributes of an item that lost its decay. -/
def stripped (b : Bag) : Bag := ((b.remove .decaying).remove .duration).remove .corpseOwner

/-- **What comes of turning an item into a type.** -/
inductive Turned (c : Catalogue) (i : Item) (t : ItemType) : Bag → Prop
  /-- The type has a decay time, which begins: time did not stand still, or none was known. -/
  | restarted (decays : t.decayTimeSecs ≠ 0)
      (runs : (i.type c).stopTime = false ∨ i.attributes.has .duration = false) :
      Turned c i t (restarted i.attributes t)
  /-- The type is a timeless one. -/
  | stripped (timeless : t.Timeless) : Turned c i t (stripped i.attributes)
  /-- The decay stays as it is: if the type has a decay time, time stood still before and is known. -/
  | kept (lasts : ¬ t.Timeless)
      (waits : t.decayTimeSecs ≠ 0 →
        (i.type c).stopTime = true ∧ i.attributes.has .duration = true) :
      Turned c i t (i.attributes.remove .corpseOwner)

variable {c : Catalogue} {i : Item} {t : ItemType} {b : Bag}

/-- **What a turn comes to.** -/
theorem turned_setId (c : Catalogue) (i : Item) (id : UInt16) :
    Turned c i (c.typeOf id) (i.setId c id).attributes := by
  unfold setId
  extract_lets stoodStill t millis timeless b₀ b₁ b₂ b₃
  have hdecays : 0 < millis ↔ t.decayTimeSecs ≠ 0 := t.decayMillis_pos_iff
  have htimeless : timeless = true ↔ t.Timeless := by
    have hzero : millis = 0 ↔ t.decayTimeSecs = 0 := t.decayMillis_eq_zero_iff
    simp only [timeless, Bool.and_eq_true, decide_eq_true_eq, Bool.not_eq_true', hzero,
      Option.isNone_iff_eq_none]
    exact ⟨fun h => ⟨h.1.1, h.2, h.1.2⟩, fun h => ⟨⟨h.no_time, h.runs⟩, h.no_target⟩⟩
  by_cases hlost : timeless = true
  · have hb₂ : b₂ = stripped b₀ := by
      show (if timeless then _ else _ : Bag).remove .corpseOwner = _
      rw [if_pos hlost]
      rfl
    -- a timeless type has no decay time that could begin
    have hno : ¬ 0 < millis := fun hpos => hdecays.1 hpos (htimeless.1 hlost).no_time
    have hb₃ : b₃ = b₂ := if_neg fun h => hno (of_decide_eq_true (Bool.and_eq_true_iff.1 h).1)
    rw [hb₃, hb₂]
    exact .stripped (htimeless.1 hlost)
  · have hb₂ : b₂ = b₀.remove .corpseOwner := by
      show (if timeless then _ else _ : Bag).remove .corpseOwner = _
      rw [if_neg hlost]
    have hhas : b₂.has .duration = b₀.has .duration := by
      rw [hb₂]
      exact ((Bag.SameAt.refl _ _).remove (by decide)).has_eq
    have hbegins : (decide (0 < millis) && (!stoodStill || !b₂.has .duration)) = true ↔
        t.decayTimeSecs ≠ 0 ∧ (stoodStill = false ∨ b₀.has .duration = false) := by
      rw [hhas, Bool.and_eq_true, Bool.or_eq_true, Bool.not_eq_true', Bool.not_eq_true',
        decide_eq_true_iff, hdecays]
    by_cases h : t.decayTimeSecs ≠ 0 ∧ (stoodStill = false ∨ b₀.has .duration = false)
    · have hb₃ : b₃ = restarted b₀ t := by
        rw [show b₃ = (b₂.setDecaying .idle).setDuration millis from if_pos (hbegins.2 h), hb₂]
        rfl
      rw [hb₃]
      exact .restarted h.1 h.2
    · have hb₃ : b₃ = b₂ := if_neg fun hb => h (hbegins.1 hb)
      rw [hb₃, hb₂]
      refine .kept (fun ht => hlost (htimeless.2 ht)) fun hsecs => ?_
      have hknown : ¬ (stoodStill = false ∨ b₀.has .duration = false) := fun hor => h ⟨hsecs, hor⟩
      rwa [not_or, Bool.not_eq_false, Bool.not_eq_false] at hknown

namespace Turned

/-- A type with a decay time gives the item a duration. -/
theorem has_duration (h : Turned c i t b) (hsecs : t.decayTimeSecs ≠ 0) : b.has .duration = true := by
  cases h with
  | restarted => exact Bag.has_put_self _ _ _
  | stripped timeless => exact absurd timeless.no_time hsecs
  | kept _ waits => exact (((Bag.SameAt.refl _ _).remove (by decide)).has_eq).trans (waits hsecs).2

/-- A timeless type leaves the item nothing of its decay. -/
theorem has_of_timeless (h : Turned c i t b) (ht : t.Timeless) :
    b.has .duration = false ∧ b.has .decaying = false := by
  cases h with
  | restarted decays => exact absurd ht.no_time decays
  | stripped =>
    have hduration : ((i.attributes.remove .decaying).remove .duration).has .duration = false :=
      Bag.has_remove_self _ _
    have hdecaying : (i.attributes.remove .decaying).has .decaying = false := Bag.has_remove_self _ _
    exact ⟨(((Bag.SameAt.refl _ _).remove (by decide)).has_eq).trans hduration,
      ((((Bag.SameAt.refl _ _).remove (by decide)).remove (by decide)).has_eq).trans hdecaying⟩
  | kept lasts => exact absurd ht lasts

/-- The corpse owner is lost. -/
theorem has_corpseOwner (h : Turned c i t b) : b.has .corpseOwner = false := by
  cases h with
  | restarted =>
    exact ((((Bag.SameAt.refl _ _).put (by decide) _).put (by decide) _).has_eq).trans
      (Bag.has_remove_self _ _)
  | stripped => exact Bag.has_remove_self _ _
  | kept => exact Bag.has_remove_self _ _

/-- **A turn touches the decay and the corpse owner only.** -/
theorem sameAt (h : Turned c i t b) {a : Attribute} (hduration : a ≠ .duration)
    (hdecaying : a ≠ .decaying) (howner : a ≠ .corpseOwner) : Bag.SameAt a i.attributes b := by
  have hrefl : Bag.SameAt a i.attributes i.attributes := .refl _ _
  cases h with
  | restarted => exact ((hrefl.remove howner.symm).put hdecaying.symm _).put hduration.symm _
  | stripped => exact ((hrefl.remove hdecaying.symm).remove hduration.symm).remove howner.symm
  | kept => exact hrefl.remove howner.symm

/-- **Where time stands still, a turn leaves the decay as it is,** unless the type is a timeless one. -/
theorem sameAt_of_paused (h : Turned c i t b) (hpaused : (i.type c).stopTime = true)
    (hlasts : ¬ t.Timeless) (hknown : i.attributes.has .duration = true) {a : Attribute}
    (ha : a ≠ .corpseOwner) : Bag.SameAt a i.attributes b := by
  cases h with
  | restarted _ runs =>
    rw [hpaused, hknown] at runs
    cases runs <;> contradiction
  | stripped timeless => exact absurd timeless hlasts
  | kept => exact (Bag.SameAt.refl _ _).remove ha.symm

end Turned

/-! ## §4. Chains of turns. -/

/-- An item after being turned into one type after the other. -/
def turns (c : Catalogue) (i : Item) (ids : List UInt16) : Item := ids.foldl (setId c) i

theorem turns_append (ids : List UInt16) (id : UInt16) :
    turns c i (ids ++ [id]) = (turns c i ids).setId c id := List.foldl_append

theorem count_turns (c : Catalogue) (i : Item) (ids : List UInt16) :
    (i.turns c ids).count = i.count := by
  induction ids generalizing i with
  | nil => rfl
  | cons id ids ih => exact ih (i.setId c id)

/-- **No turn of a chain touches an attribute** but the decay and the corpse owner. -/
theorem sameAt_turns (c : Catalogue) {a : Attribute} (hduration : a ≠ .duration)
    (hdecaying : a ≠ .decaying) (howner : a ≠ .corpseOwner) (i : Item) (ids : List UInt16) :
    Bag.SameAt a i.attributes (i.turns c ids).attributes := by
  induction ids generalizing i with
  | nil => exact .refl _ _
  | cons id ids ih =>
    exact ((turned_setId c i id).sameAt hduration hdecaying howner).trans (ih (i.setId c id))

/-- **A chain of turns in which time stands still.**  Every type that the item leaves stops time, and
    none that it enters is a timeless one; then a decay that has begun is the same at the end. -/
theorem sameAt_turns_of_paused (c : Catalogue) {a : Attribute} (ha : a ≠ .corpseOwner) (i : Item)
    (ids : List UInt16) (hpaused : ∀ id ∈ (i.id :: ids).dropLast, (c.typeOf id).stopTime = true)
    (hlasts : ∀ id ∈ ids, ¬ (c.typeOf id).Timeless) (hknown : i.attributes.has .duration = true) :
    Bag.SameAt a i.attributes (i.turns c ids).attributes := by
  induction ids generalizing i with
  | nil => exact .refl _ _
  | cons id ids ih =>
    rw [List.dropLast_cons_cons] at hpaused
    have hleft : (i.type c).stopTime = true := hpaused i.id List.mem_cons_self
    have hturn {a : Attribute} (ha : a ≠ .corpseOwner) :
        Bag.SameAt a i.attributes (i.setId c id).attributes :=
      (turned_setId c i id).sameAt_of_paused hleft (hlasts id List.mem_cons_self) hknown ha
    have hknown' : (i.setId c id).attributes.has .duration = true :=
      (hturn (by decide)).has_eq.trans hknown
    exact (hturn ha).trans (ih (i.setId c id) (fun id' h => hpaused id' (List.mem_cons_of_mem _ h))
      (fun id' h => hlasts id' (List.mem_cons_of_mem _ h)) hknown')

/-- **The decay of an item that is turned into other types,** one after the other, by any catalogue.

    * After a turn into a type the item has its id; if the type has a decay time the item has a
      duration, and if it is a timeless type the item has neither a duration nor a state of decay.  It
      has no corpse owner.
    * The count and all other attributes are those it had.
    * If every type that it leaves stops time and none that it enters is a timeless one, a duration that
      it had at first keeps its value, and the state of its decay stays as it was. -/
theorem turns_keep_decay (c : Catalogue) (i : Item) :
    (∀ ids id, let j := i.turns c (ids ++ [id])
      j.id = id
        ∧ ((c.typeOf id).decayTimeSecs ≠ 0 → j.attributes.has .duration = true)
        ∧ ((c.typeOf id).Timeless →
            j.attributes.has .duration = false ∧ j.attributes.has .decaying = false)
        ∧ j.attributes.has .corpseOwner = false)
      ∧ (∀ ids, (i.turns c ids).count = i.count
          ∧ ∀ a : Attribute, a ≠ .duration → a ≠ .decaying → a ≠ .corpseOwner →
            Bag.SameAt a i.attributes (i.turns c ids).attributes)
      ∧ ∀ ids, (∀ id ∈ (i.id :: ids).dropLast, (c.typeOf id).stopTime = true) →
          (∀ id ∈ ids, ¬ (c.typeOf id).Timeless) → i.attributes.has .duration = true →
          Bag.SameAt .duration i.attributes (i.turns c ids).attributes
            ∧ Bag.SameAt .decaying i.attributes (i.turns c ids).attributes := by
  refine ⟨fun ids id => ?_, fun ids => ⟨count_turns c i ids, fun a hduration hdecaying howner => ?_⟩,
    fun ids hpaused hlasts hknown => ?_⟩
  · have hturned := turned_setId c (i.turns c ids) id
    rw [turns_append]
    exact ⟨rfl, hturned.has_duration, hturned.has_of_timeless, hturned.has_corpseOwner⟩
  · exact sameAt_turns c hduration hdecaying howner i ids
  · exact ⟨sameAt_turns_of_paused c (by decide) i ids hpaused hlasts hknown,
      sameAt_turns_of_paused c (by decide) i ids hpaused hlasts hknown⟩

/-- Torches that burn for ten minutes, what they are while they are out, and what is left of them. -/
def lanterns : Catalogue :=
  ⟨((({} : Std.ExtTreeMap UInt16 ItemType).insert 2051
    { id := 2051, decayTo := some 2050, decayTimeSecs := 600, stopTime := true }).insert 2053
    { id := 2053, stopTime := true }).insert 2050 { id := 2050 }⟩

/-- A torch with a second left is put out and lit again: it still has a second, and its decay goes on.
    When it is burnt down nothing of its decay is left. -/
theorem turns_keep_decay_torch :
    let i : Item := ⟨2051, 0, (Bag.empty.setDuration 1000).setDecaying .active⟩
    let j := i.turns lanterns [2053, 2051]
    let k := i.turns lanterns ([2053, 2051] ++ [2050])
    j.attributes.lookup .duration = some (.number 1000)
      ∧ j.attributes.lookup .decaying = some (.number DecayState.active.toNumber)
      ∧ j.attributes.has .duration = true
      ∧ k.attributes.has .duration = false ∧ k.attributes.has .decaying = false := by
  intro i j k
  obtain ⟨hturn, -, hchain⟩ := turns_keep_decay lanterns i
  have hlit : (lanterns.typeOf 2051).stopTime = true := by decide
  have hout : (lanterns.typeOf 2053).stopTime = true := by decide
  have hpaused : ∀ id ∈ ([2051, 2053] : List UInt16), (lanterns.typeOf id).stopTime = true :=
    List.forall_mem_cons.mpr ⟨hlit, List.forall_mem_cons.mpr ⟨hout, nofun⟩⟩
  have hstops {t : ItemType} (h : t.stopTime = true) : ¬ t.Timeless := fun ht => by
    rw [ht.runs] at h
    cases h
  have hlasts : ∀ id ∈ ([2053, 2051] : List UInt16), ¬ (lanterns.typeOf id).Timeless :=
    List.forall_mem_cons.mpr ⟨hstops hout, List.forall_mem_cons.mpr ⟨hstops hlit, nofun⟩⟩
  obtain ⟨hduration, hdecaying⟩ := hchain [2053, 2051] hpaused hlasts (by decide)
  have hburnt : (lanterns.typeOf 2050).Timeless := ⟨by decide, by decide, by decide⟩
  exact ⟨hduration.lookup_eq.trans (by decide), hdecaying.lookup_eq.trans (by decide),
    (hturn [2053] 2051).2.1 (by decide), (hturn [2053, 2051] 2050).2.2.1 hburnt⟩

end Item

end Realm
