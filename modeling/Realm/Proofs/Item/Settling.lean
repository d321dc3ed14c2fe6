/-
  Realm.Proofs.Item.Settling — an item that was loaded loads as itself.

  A load may cut a text, raise an action id, end a negative duration, begin a decay time anew and put a
  decay off.  It does none of that to an item that comes from a load: each attribute is then one that a
  load leaves alone.  Items are equal when their attributes are found alike, because a load puts every
  attribute in its place.

  Main statements:
  * `canonical_reread` — the attributes of a loaded item are a canonical bag;
  * `reread_reread` — loading twice is loading once.
-/
import Realm.Proofs.Item.Reload
import Realm.Proofs.Text.Clipping

namespace Realm

/-- **A shortened text is short enough:** it is not shortened again, even where a replacement character
    made it longer than its length can say. -/
theorem Cursor.shortened_shortened (s : String) : shortened (shortened s) = shortened s := by
  unfold shortened
  rw [Utf8.decodeLossy_take_encode, Utf8.decodeLossy_take_encode, String.toList_ofList,
    Utf8.clip_clip]

/-- A decay time is never negative. -/
theorem ItemType.max_decayMillis (t : ItemType) : max t.decayMillis 0 = t.decayMillis := by
  have hbound : min t.decayTimeSecs.toNat maxDecaySecs * 1000 < 2 ^ 31 := by
    unfold maxDecaySecs
    omega
  have hnonneg : 0 ≤ t.decayMillis := by
    rw [Int32.le_iff_toInt_le, decayMillis, Int32.toInt_ofNat_of_lt hbound]
    exact Int.natCast_nonneg _
  show (if t.decayMillis ≤ 0 then 0 else t.decayMillis) = t.decayMillis
  split
  · exact Int32.le_antisymm hnonneg ‹_›
  · rfl

/-- What was raised to a least value is not raised again. -/
theorem maxOfLe_maxOfLe {α : Type} [LE α] [DecidableLE α] (n least : α) :
    maxOfLe.max (maxOfLe.max n least) least = maxOfLe.max n least := by
  have hmax : ∀ m : α, maxOfLe.max m least = if m ≤ least then least else m := fun _ => rfl
  rw [hmax, hmax]
  by_cases hraised : n ≤ least
  · rw [if_pos hraised, ite_self]
  · rw [if_neg hraised, if_neg hraised]

namespace Item

variable (c : Catalogue) (i : Item)

/-! ## §1. Canonical attributes. -/

/-- A record puts one attribute, or none. -/
theorem applyRecord_attributes (r : Record) :
    (i.applyRecord c r).attributes = i.attributes
      ∨ ∃ a v, (i.applyRecord c r).attributes = i.attributes.put a v := by
  have hsubtype : ∀ n, (i.setSubtype c n).attributes = i.attributes
      ∨ ∃ a v, (i.setSubtype c n).attributes = i.attributes.put a v := by
    intro n
    rw [setSubtype_eq]
    split
    · exact .inr ⟨_, _, rfl⟩
    · exact .inl rfl
  have htext : ∀ (a : Attribute) (s : String), i.attributes.setText a s = i.attributes
      ∨ ∃ a' v, i.attributes.setText a s = i.attributes.put a' v := by
    intro a s
    unfold Bag.setText
    split
    · exact .inr ⟨_, _, rfl⟩
    · exact .inl rfl
  cases r with
  | count n => exact hsubtype _
  | charges n => exact hsubtype n
  | text s => exact htext .text s
  | writer s => exact htext .writer s
  | description s => exact htext .description s
  | actionId n => exact .inr ⟨_, _, rfl⟩
  | writtenDate n => exact .inr ⟨_, _, rfl⟩
  | duration n => exact .inr ⟨_, _, rfl⟩
  | uniqueId n =>
    show (i.setUniqueId n).attributes = _ ∨ ∃ a v, (i.setUniqueId n).attributes = _
    unfold setUniqueId
    split
    · exact .inl rfl
    · exact .inr ⟨_, _, rfl⟩
  | decayState n =>
    show (if n = 0 then i else i.setAttributes (·.setDecaying .pending)).attributes = _
      ∨ ∃ a v, (if n = 0 then i else i.setAttributes (·.setDecaying .pending)).attributes = _
    split
    · exact .inl rfl
    · exact .inr ⟨_, _, rfl⟩
  | foreign => exact .inl rfl
  | container n => exact .inl rfl

theorem canonical_applyRecord (r : Record) (h : i.attributes.Canonical) :
    (i.applyRecord c r).attributes.Canonical := by
  rcases applyRecord_attributes c i r with hsame | ⟨a, v, hput⟩
  · rw [hsame]
    exact h
  · rw [hput]
    exact h.put a v

theorem canonical_new (id amount : UInt16) : (new c id amount).attributes.Canonical := by
  have hfirst : (firstAttributes (c.typeOf id) amount).Canonical := by
    unfold firstAttributes
    split
    · exact Bag.canonical_empty.put _ _
    · exact Bag.canonical_empty
  rw [new, setAmount_eq, setDefaultDuration]
  split
  · exact hfirst
  · exact hfirst.put _ _

/-- **The attributes of a loaded item** are a canonical bag, whatever they were before. -/
theorem canonical_reread : (i.reread c).attributes.Canonical := by
  have hrun : ∀ (rs : List Record) (j : Item), j.attributes.Canonical →
      (rs.foldl (applyRecord c) j).attributes.Canonical := by
    intro rs
    induction rs with
    | nil => exact fun j hj => hj
    | cons r rs ih => exact fun j hj => ih _ (canonical_applyRecord c j r hj)
  exact hrun _ _ (canonical_new c i.id 0)

/-! ## §2. What a load leaves alone. -/

theorem type_reread : (i.reread c).type c = i.type c := by
  rw [type, type, reread_id]

/-- The text of a loaded item is as much of it as can be said. -/
theorem textOf_reread {a : Attribute} (htext : a.isText = true) :
    (i.reread c).attributes.textOf a = Cursor.shortened (i.attributes.textOf a) := by
  have hfound : (i.reread c).attributes.lookup a = textAfterLoad (i.attributes.textOf a) := by
    rw [lookup_reread_eq]
    cases a with
    | description | text | writer => rfl
    | _ => exact absurd htext Bool.false_ne_true
  rw [Bag.textOf, hfound, textAfterLoad]
  by_cases hempty : Cursor.shortened (i.attributes.textOf a) = ""
  · rw [if_pos hempty, hempty]
  · rw [if_neg hempty]
    show (if a.isText = true then _ else _) = _
    rw [if_pos htext]

theorem textAfterLoad_shortened (s : String) :
    textAfterLoad (Cursor.shortened s) = textAfterLoad s := by
  unfold textAfterLoad
  rw [Cursor.shortened_shortened]

/-- The number of a loaded item is the one found there. -/
theorem numberOf_reread {a : Attribute} {n : Int32} (hnumber : a.isText = false)
    (h : i.afterLoad c a = some (.number n)) : (i.reread c).attributes.numberOf a = n := by
  rw [Bag.numberOf, lookup_reread_eq, h]
  show (if a.isText = true then 0 else n) = n
  rw [if_neg (by simp [hnumber])]

theorem numberOf_reread_of_none {a : Attribute} (h : i.afterLoad c a = none) :
    (i.reread c).attributes.numberOf a = 0 := by
  rw [Bag.numberOf, lookup_reread_eq, h]

theorem word16_reread {a : Attribute} {n : UInt16} (hnumber : a.isText = false)
    (h : i.afterLoad c a = some (.word n)) : (i.reread c).attributes.word16 a = n :=
  Bag.word16_of_lookup hnumber ((lookup_reread_eq c i a).trans h)

theorem word16_reread_of_none {a : Attribute} (h : i.afterLoad c a = none) :
    (i.reread c).attributes.word16 a = 0 :=
  Bag.word16_of_lookup_none ((lookup_reread_eq c i a).trans h)

theorem afterLoad_reread_writtenDate :
    (i.reread c).afterLoad c .writtenDate = i.afterLoad c .writtenDate := by
  by_cases hdate : i.attributes.writtenDate ≠ 0
  · have hkept : i.afterLoad c .writtenDate
        = some (.number (i.attributes.numberOf .writtenDate)) := if_pos hdate
    have hsame := numberOf_reread c i rfl hkept
    have hdate' : (i.reread c).attributes.writtenDate ≠ 0 := by
      rw [Bag.writtenDate, Bag.word32, hsame]
      exact hdate
    rw [hkept, afterLoad, if_pos hdate', hsame]
  · have hgone : i.afterLoad c .writtenDate = none := if_neg hdate
    have hzero : ¬ (i.reread c).attributes.writtenDate ≠ 0 := by
      rw [Bag.writtenDate, Bag.word32, numberOf_reread_of_none c i hgone]
      exact not_not_intro rfl
    rw [hgone, afterLoad, if_neg hzero]

/-- An action id is raised once. -/
theorem afterLoad_reread_actionId :
    (i.reread c).afterLoad c .actionId = i.afterLoad c .actionId := by
  by_cases hkeeps : (i.type c).moveable = true ∧ i.attributes.actionId ≠ 0
  · have hkept : i.afterLoad c .actionId = some (.word (max i.attributes.actionId 100)) :=
      if_pos hkeeps
    have hraised : (i.reread c).attributes.actionId = max i.attributes.actionId 100 :=
      word16_reread c i rfl hkept
    have hset : max i.attributes.actionId 100 ≠ 0 := by
      show (if i.attributes.actionId ≤ 100 then 100 else i.attributes.actionId) ≠ 0
      split
      · decide
      · exact hkeeps.2
    have hkeeps' : ((i.reread c).type c).moveable = true
        ∧ (i.reread c).attributes.actionId ≠ 0 := by
      rw [type_reread, hraised]
      exact ⟨hkeeps.1, hset⟩
    have hagain : max (max i.attributes.actionId 100) 100 = max i.attributes.actionId 100 :=
      maxOfLe_maxOfLe _ _
    rw [hkept, afterLoad, if_pos hkeeps', hraised, hagain]
  · have hgone : i.afterLoad c .actionId = none := if_neg hkeeps
    have hzero : (i.reread c).attributes.actionId = 0 := word16_reread_of_none c i hgone
    rw [hgone, afterLoad, if_neg fun h => h.2 hzero]

/-- A duration is ended once, and a decay time does not begin twice. -/
theorem afterLoad_reread_duration :
    (i.reread c).afterLoad c .duration = i.afterLoad c .duration := by
  -- an item with a duration that is not negative keeps it
  have hsettled : ∀ n : Int32, max n 0 = n → i.afterLoad c .duration = some (.number n) →
      (i.reread c).afterLoad c .duration = some (.number n) := by
    intro n hn hkept
    have hhas : (i.reread c).attributes.has .duration = true := by
      rw [(canonical_reread c i).has_eq, lookup_reread_eq, hkept]
      rfl
    have hsame : (i.reread c).attributes.duration = n := numberOf_reread c i rfl hkept
    rw [afterLoad, if_pos hhas, hsame, hn]
  by_cases hhas : i.attributes.has .duration = true
  · have hkept : i.afterLoad c .duration = some (.number (max i.attributes.duration 0)) :=
      if_pos hhas
    rw [hkept]
    exact hsettled _ (maxOfLe_maxOfLe _ _) hkept
  by_cases hdecays : (i.type c).decayMillis ≠ 0
  · have hkept : i.afterLoad c .duration = some (.number (i.type c).decayMillis) := by
      rw [afterLoad, if_neg hhas, if_pos hdecays]
    rw [hkept]
    exact hsettled _ (i.type c).max_decayMillis hkept
  · have hgone : i.afterLoad c .duration = none := by
      rw [afterLoad, if_neg hhas, if_neg hdecays]
    have hhas' : ¬ (i.reread c).attributes.has .duration = true := by
      rw [(canonical_reread c i).has_eq, lookup_reread_eq, hgone]
      exact Bool.false_ne_true
    rw [hgone, afterLoad, type_reread, if_neg hhas', if_neg hdecays]

theorem afterLoad_reread_decaying :
    (i.reread c).afterLoad c .decaying = i.afterLoad c .decaying := by
  by_cases hdecays : i.attributes.decaying ≠ .idle
  · have hkept : i.afterLoad c .decaying = some (.number DecayState.pending.toNumber) :=
      if_pos hdecays
    have hpending : (i.reread c).attributes.decaying ≠ .idle := by
      rw [Bag.decaying, numberOf_reread c i rfl hkept]
      decide
    rw [hkept, afterLoad, if_pos hpending]
  · have hgone : i.afterLoad c .decaying = none := if_neg hdecays
    have hidle : ¬ (i.reread c).attributes.decaying ≠ .idle := by
      rw [Bag.decaying, numberOf_reread_of_none c i hgone]
      decide
    rw [hgone, afterLoad, if_neg hidle]

theorem afterLoad_reread_charges :
    (i.reread c).afterLoad c .charges = i.afterLoad c .charges := by
  by_cases hpure : (i.type c).hasCharges = true ∧ (i.type c).stackable = false
      ∧ (i.type c).holdsLiquid = false
  · have hkept : i.afterLoad c .charges = some (.word i.attributes.charges) := if_pos hpure
    have hsame : (i.reread c).attributes.charges = i.attributes.charges :=
      word16_reread c i rfl hkept
    rw [hkept, afterLoad, type_reread, if_pos hpure, hsame]
  · rw [afterLoad, afterLoad, type_reread, if_neg hpure, if_neg hpure]

/-- A liquid is cut to a byte once. -/
theorem afterLoad_reread_fluidType (h : (i.type c).mixesCharges = false) :
    (i.reread c).afterLoad c .fluidType = i.afterLoad c .fluidType := by
  by_cases hliquid : (i.type c).holdsLiquid = true
  · have hcharges : ¬ (i.type c).hasCharges = true := by
      intro hcharges
      simp [ItemType.mixesCharges, hcharges, hliquid] at h
    have hkept : i.afterLoad c .fluidType = some (.word (i.attributes.fluidType % 256)) := by
      rw [afterLoad, if_pos hliquid, if_neg hcharges]
    have hsame : (i.reread c).attributes.fluidType = i.attributes.fluidType % 256 :=
      word16_reread c i rfl hkept
    have hagain : i.attributes.fluidType % 256 % 256 = i.attributes.fluidType % 256 := by grind
    rw [hkept, afterLoad, type_reread, if_pos hliquid, if_neg hcharges, hsame, hagain]
  · rw [afterLoad, afterLoad, type_reread, if_neg hliquid, if_neg hliquid]

/-! ## §3. Loading twice. -/

/-- **A load leaves the attributes of a loaded item alone.** -/
theorem afterLoad_reread (h : (i.type c).mixesCharges = false) (a : Attribute) :
    (i.reread c).afterLoad c a = i.afterLoad c a := by
  have htext : ∀ kept : Attribute, kept.isText = true →
      textAfterLoad ((i.reread c).attributes.textOf kept)
        = textAfterLoad (i.attributes.textOf kept) := by
    intro kept hkept
    rw [textOf_reread c i hkept, textAfterLoad_shortened]
  cases a with
  | description => exact htext .description rfl
  | text => exact htext .text rfl
  | writer => exact htext .writer rfl
  | writtenDate => exact afterLoad_reread_writtenDate c i
  | actionId => exact afterLoad_reread_actionId c i
  | duration => exact afterLoad_reread_duration c i
  | decaying => exact afterLoad_reread_decaying c i
  | charges => exact afterLoad_reread_charges c i
  | fluidType => exact afterLoad_reread_fluidType c i h
  | uniqueId | owner | corpseOwner | doorId => rfl

theorem countAfterLoad_reread (h : (i.type c).mixesCharges = false) :
    (i.reread c).countAfterLoad c = i.countAfterLoad c := by
  rw [countAfterLoad, type_reread, count_reread_eq, countAfterLoad]
  by_cases hcount : (i.type c).stackable = true ∧ (i.type c).holdsLiquid = false
  · have hcharges : ¬ (i.type c).hasCharges = true := by
      intro hcharges
      simp [ItemType.mixesCharges, hcharges, hcount.1] at h
    simp only [if_pos hcount, if_neg hcharges, Record.stored_stored]
  · rw [if_neg hcount, if_neg hcount]

/-- **Loading twice is loading once,** for an item whose type does not mix charges with a stack or a
    liquid. -/
theorem reread_reread (h : (i.type c).mixesCharges = false) :
    (i.reread c).reread c = i.reread c := by
  have hattributes : ((i.reread c).reread c).attributes = (i.reread c).attributes := by
    refine (canonical_reread c _).ext (canonical_reread c i) fun a => ?_
    rw [lookup_reread_eq, lookup_reread_eq, afterLoad_reread c i h]
  have hcount : ((i.reread c).reread c).count = (i.reread c).count := by
    rw [count_reread_eq, count_reread_eq, countAfterLoad_reread c i h]
  have hid : ((i.reread c).reread c).id = (i.reread c).id := reread_id c _
  generalize (i.reread c).reread c = j at hid hcount hattributes ⊢
  generalize i.reread c = k at hid hcount hattributes ⊢
  cases j
  cases k
  simp only at hid hcount hattributes
  rw [hid, hcount, hattributes]

end Item

end Realm
