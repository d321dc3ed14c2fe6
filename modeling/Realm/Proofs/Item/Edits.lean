/-
  Realm.Proofs.Item.Edits — a bag of attributes is a partial map.

  A bag is changed by edits.  Each edit is about one attribute, and what it leaves there is a function of
  what stood there; so a run of edits is a run of updates of a map from attributes to values.  The bag
  keeps that map twice, as bits and as entries, and no edit lets the two get out of step.

  Main statements:
  * `edited` — an edit leaves a bag alone, puts one value of the right kind, or removes one;
  * `lookup_edit` — what is found afterwards is the map updated at the edit's own attribute;
  * `run_updates_map` — after any run the bag is canonical and reads as the map.
-/
import Mathlib.Logic.Function.Basic
import Realm.Proofs.Item.Bag

namespace Realm

/-- Whether a value is of an attribute's kind: texts are not empty. -/
def Attribute.Fits (a : Attribute) : AttributeValue → Prop
  | .text s => a.isText = true ∧ s ≠ ""
  | .number _ => a.isText = false

namespace Bag

/-! ## §1. Edits. -/

/-- A change of a bag.  The texts by name are texts under their attributes. -/
inductive Edit
  | setText (a : Attribute) (s : String)
  | setNumber (a : Attribute) (n : Int32)
  | increase (a : Attribute) (n : Int32)
  | remove (a : Attribute)
  | decreaseDuration (n : Int32)
  | setActionId (n : UInt16)
  | setUniqueId (n : UInt16)
  | setCharges (n : UInt16)
  | setFluidType (n : UInt16)
  | setWrittenDate (n : UInt32)
  | setOwner (n : UInt32)
  | setCorpseOwner (n : UInt32)
  | setDuration (n : Int32)
  | setDecaying (s : DecayState)

/-- A bag after an edit. -/
def edit (b : Bag) : Edit → Bag
  | .setText a s => b.setText a s
  | .setNumber a n => b.setNumber a n
  | .increase a n => b.increase a n
  | .remove a => b.remove a
  | .decreaseDuration n => b.decreaseDuration n
  | .setActionId n => b.setActionId n
  | .setUniqueId n => b.setUniqueId n
  | .setCharges n => b.setCharges n
  | .setFluidType n => b.setFluidType n
  | .setWrittenDate n => b.setWrittenDate n
  | .setOwner n => b.setOwner n
  | .setCorpseOwner n => b.setCorpseOwner n
  | .setDuration n => b.setDuration n
  | .setDecaying s => b.setDecaying s

/-- A bag after edits, one after the other. -/
def run (b : Bag) (edits : List Edit) : Bag := edits.foldl edit b

/-! ## §2. Partial maps. -/

/-- The text that a value reads as. -/
def textIn : Option AttributeValue → String
  | some (.text s) => s
  | _ => ""

/-- The number that a value reads as. -/
def numberIn : Option AttributeValue → Int32
  | some (.number n) => n
  | _ => 0

namespace Edit

/-- The attribute that an edit is about. -/
def target : Edit → Attribute
  | setText a _ | setNumber a _ | increase a _ | remove a => a
  | decreaseDuration _ | setDuration _ => .duration
  | setActionId _ => .actionId
  | setUniqueId _ => .uniqueId
  | setCharges _ => .charges
  | setFluidType _ => .fluidType
  | setWrittenDate _ => .writtenDate
  | setOwner _ => .owner
  | setCorpseOwner _ => .corpseOwner
  | setDecaying _ => .decaying

/-- **What an edit leaves under its attribute,** given what is held there.  Sums and unsigned numbers of
    32 bits wrap; the two ids are raised to their least values. -/
def outcome : Edit → Option AttributeValue → Option AttributeValue
  | setText a s, held => if a.isText = true ∧ s ≠ "" then some (.text s) else held
  | setNumber a n, held => if a.isText then held else some (.number n)
  | increase a n, held =>
    if a.isText then held else some (.number (.ofInt ((numberIn held).toInt + n.toInt)))
  | remove _, _ => none
  | decreaseDuration n, held => some (.number (.ofInt ((numberIn held).toInt - n.toInt)))
  | setActionId n, _ => some (.number (.ofNat (max n.toNat 100)))
  | setUniqueId n, _ => some (.number (.ofNat (max n.toNat 1000)))
  | setCharges n, _ | setFluidType n, _ => some (.number (.ofNat n.toNat))
  | setWrittenDate n, _ | setOwner n, _ | setCorpseOwner n, _ => some (.number (.ofNat n.toNat))
  | setDuration n, _ => some (.number n)
  | setDecaying .idle, _ => some (.number 0)
  | setDecaying .pending, _ => some (.number 1)
  | setDecaying .active, _ => some (.number 2)

/-- A partial map after an edit. -/
def update (d : Edit) (m : Attribute → Option AttributeValue) : Attribute → Option AttributeValue :=
  Function.update m d.target (d.outcome (m d.target))

end Edit

/-- The partial map that a run of edits makes of the empty one. -/
def valuesAfter (edits : List Edit) : Attribute → Option AttributeValue :=
  edits.foldl (fun m d => d.update m) fun _ => none

/-! ## §3. What an edit does. -/

/-- **What an edit comes to:** the bag is left alone, a value of the right kind is put under the edit's
    attribute, or that attribute is removed; and the outcome agrees. -/
inductive Edited (b : Bag) (d : Edit) : Bag → Prop
  | kept (same : d.outcome (b.lookup d.target) = b.lookup d.target) : Edited b d b
  | put (v : AttributeValue) (fits : d.target.Fits v)
      (left : d.outcome (b.lookup d.target) = some v) : Edited b d (b.put d.target v)
  | removed (gone : d.outcome (b.lookup d.target) = none) : Edited b d (b.remove d.target)

/-! ### Words as numbers -/

theorem word_eq (n : UInt16) : AttributeValue.word n = .number (.ofNat n.toNat) := by
  rw [AttributeValue.word, ← Int32.ofInt_toInt n.toUInt32.toInt32, toInt_word]
  rfl

theorem toNat_word_max (n m : UInt16) : (max n m).toNat = max n.toNat m.toNat := by
  show (if n ≤ m then m else n).toNat = if n.toNat ≤ m.toNat then m.toNat else n.toNat
  simp only [UInt16.le_iff_toNat_le]
  split <;> rfl

theorem setWord32_eq_put (b : Bag) {a : Attribute} (hnumber : a.isText = false) (n : UInt32) :
    b.setWord32 a n = b.put a (.number (.ofNat n.toNat)) := by
  have hword : n.toInt32 = .ofNat n.toNat := by
    show n.toInt32 = (UInt32.ofNat n.toNat).toInt32
    rw [UInt32.ofNat_toNat]
  rw [setWord32, setNumber, if_neg (Bool.eq_false_iff.1 hnumber), hword]

/-- Numbers are added modulo 2 ^ 32, whether one is held or not. -/
theorem increase_eq_put (b : Bag) {a : Attribute} (hnumber : a.isText = false) (n : Int32) :
    b.increase a n
      = b.put a (.number (.ofInt ((numberIn (b.lookup a)).toInt + n.toInt))) := by
  unfold increase
  rw [if_neg (Bool.eq_false_iff.1 hnumber), Int32.ofInt_add, Int32.ofInt_toInt,
    Int32.ofInt_toInt]
  split
  · rename_i hheld
    rw [hheld]
    rfl
  · rename_i hheld
    have hzero : numberIn (b.lookup a) = 0 := by
      unfold numberIn
      split
      · exact absurd ‹_› (hheld _)
      · rfl
    rw [hzero, Int32.zero_add]

/-- **An edit** does what its outcome says. -/
theorem edited (b : Bag) (d : Edit) : Edited b d (b.edit d) := by
  cases d with
  | setText a s =>
    show Edited b _ (b.setText a s)
    unfold setText
    by_cases hset : a.isText = true ∧ s ≠ ""
    · rw [if_pos (by simpa using hset)]
      exact .put (d := .setText a s) _ hset (if_pos hset)
    · rw [if_neg (by simpa using hset)]
      exact .kept (if_neg hset)
  | setNumber a n =>
    show Edited b _ (b.setNumber a n)
    unfold setNumber
    cases htext : a.isText with
    | true => exact .kept (if_pos htext)
    | false => exact .put (d := .setNumber a n) _ htext (if_neg (Bool.eq_false_iff.1 htext))
  | increase a n =>
    show Edited b _ (b.increase a n)
    cases htext : a.isText with
    | true =>
      unfold increase
      rw [if_pos htext]
      exact .kept (if_pos htext)
    | false =>
      rw [increase_eq_put b htext]
      exact .put (d := .increase a n) _ htext (if_neg (Bool.eq_false_iff.1 htext))
  | remove a => exact .removed (d := .remove a) rfl
  | decreaseDuration n =>
    have hdiff : (.ofInt ((numberIn (b.lookup .duration)).toInt - n.toInt) : Int32)
        = .ofInt ((numberIn (b.lookup .duration)).toInt + (-n).toInt) := by
      rw [Int32.ofInt_add, Int32.ofInt_toInt, Int32.ofInt_sub, Int32.ofInt_toInt, Int32.ofInt_toInt,
        Int32.ofInt_toInt, Int32.sub_eq_add_neg]
    show Edited b _ (b.increase .duration (-n))
    rw [increase_eq_put b rfl, ← hdiff]
    exact .put (d := .decreaseDuration n) _ rfl rfl
  | setActionId n =>
    show Edited b _ (b.setActionId n)
    rw [setActionId_eq_put, word_eq, toNat_word_max]
    exact .put (d := .setActionId n) _ rfl rfl
  | setUniqueId n =>
    show Edited b _ (b.setUniqueId n)
    rw [setUniqueId_eq_put, word_eq, toNat_word_max]
    exact .put (d := .setUniqueId n) _ rfl rfl
  | setCharges n =>
    show Edited b _ (b.setCharges n)
    rw [setCharges_eq_put, word_eq]
    exact .put (d := .setCharges n) _ rfl rfl
  | setFluidType n =>
    show Edited b _ (b.setFluidType n)
    rw [setFluidType_eq_put, word_eq]
    exact .put (d := .setFluidType n) _ rfl rfl
  | setWrittenDate n =>
    show Edited b _ (b.setWord32 .writtenDate n)
    rw [setWord32_eq_put b rfl]
    exact .put (d := .setWrittenDate n) _ rfl rfl
  | setOwner n =>
    show Edited b _ (b.setWord32 .owner n)
    rw [setWord32_eq_put b rfl]
    exact .put (d := .setOwner n) _ rfl rfl
  | setCorpseOwner n =>
    show Edited b _ (b.setWord32 .corpseOwner n)
    rw [setWord32_eq_put b rfl]
    exact .put (d := .setCorpseOwner n) _ rfl rfl
  | setDuration n => exact .put (d := .setDuration n) _ rfl rfl
  | setDecaying s => cases s <;> exact .put (d := .setDecaying _) _ rfl rfl

/-- **What is found after an edit** is the map before, updated at the edit's own attribute. -/
theorem lookup_edit (b : Bag) (d : Edit) : (b.edit d).lookup = d.update b.lookup := by
  funext a
  rw [Edit.update, Function.update_apply]
  have hedited := edited b d
  generalize b.edit d = b' at hedited
  cases hedited with
  | kept same =>
    split
    · rename_i hown
      rw [same, hown]
    · rfl
  | put v _ left =>
    rw [lookup_put, left]
    simp only [eq_comm]
  | removed gone =>
    rw [lookup_remove, gone]
    simp only [eq_comm]

/-- An edit keeps bits and entries in step. -/
theorem Canonical.edit {b : Bag} (h : b.Canonical) (d : Edit) : (b.edit d).Canonical := by
  have hedited := edited b d
  generalize b.edit d = b' at hedited
  cases hedited with
  | kept => exact h
  | put v => exact h.put _ v
  | removed => exact h.remove _

/-- Only values of an attribute's kind stand under it. -/
def Typed (b : Bag) : Prop := ∀ a v, b.lookup a = some v → a.Fits v

/-- An edit puts no value under an attribute of another kind. -/
theorem Typed.edit {b : Bag} (h : b.Typed) (d : Edit) : (b.edit d).Typed := by
  intro a v hv
  have hedited := edited b d
  generalize b.edit d = b' at hedited hv
  cases hedited with
  | kept => exact h a v hv
  | put v' fits =>
    rw [lookup_put] at hv
    split at hv
    · rename_i hown
      rw [← hown, ← Option.some.inj hv]
      exact fits
    · exact h a v hv
  | removed =>
    rw [lookup_remove] at hv
    split at hv
    · cases hv
    · exact h a v hv

/-! ## §4. Runs. -/

theorem Canonical.run {b : Bag} (h : b.Canonical) (edits : List Edit) : (b.run edits).Canonical := by
  induction edits generalizing b with
  | nil => exact h
  | cons d edits ih => exact ih (h.edit d)

theorem Typed.run {b : Bag} (h : b.Typed) (edits : List Edit) : (b.run edits).Typed := by
  induction edits generalizing b with
  | nil => exact h
  | cons d edits ih => exact ih (h.edit d)

/-- **A run of edits is a run of updates.** -/
theorem lookup_run (b : Bag) (edits : List Edit) :
    (b.run edits).lookup = edits.foldl (fun m d => d.update m) b.lookup := by
  induction edits generalizing b with
  | nil => rfl
  | cons d edits ih =>
    rw [List.foldl_cons, ← lookup_edit]
    exact ih (b.edit d)

theorem canonical_run_empty (edits : List Edit) : (empty.run edits).Canonical :=
  canonical_empty.run edits

theorem typed_run_empty (edits : List Edit) : (empty.run edits).Typed := by
  refine Typed.run (fun a v hv => ?_) edits
  rw [lookup_empty] at hv
  cases hv

theorem lookup_run_empty (edits : List Edit) : (empty.run edits).lookup = valuesAfter edits := by
  have hnone : empty.lookup = fun _ => none := funext lookup_empty
  rw [lookup_run, hnone, valuesAfter]

/-! ### Readings -/

/-- A text is read as it stands there: under a number attribute there is none. -/
theorem Typed.textOf_eq {b : Bag} (h : b.Typed) (a : Attribute) : b.textOf a = textIn (b.lookup a) := by
  unfold textOf textIn
  cases hv : b.lookup a with
  | none => rfl
  | some v =>
    cases v with
    | number n => rfl
    | text s => exact if_pos (h a _ hv).1

/-- A number is read as it stands there: under a text attribute there is none. -/
theorem Typed.numberOf_eq {b : Bag} (h : b.Typed) (a : Attribute) :
    b.numberOf a = numberIn (b.lookup a) := by
  unfold numberOf numberIn
  cases hv : b.lookup a with
  | none => rfl
  | some v =>
    cases v with
    | text s => rfl
    | number n => exact if_neg (Bool.eq_false_iff.1 (h a _ hv))

/-- **The readings of a bag that was made by edits** are those of the map that the edits make. -/
theorem run_empty_reads (edits : List Edit) (a : Attribute) :
    (empty.run edits).has a = (valuesAfter edits a).isSome
      ∧ (empty.run edits).textOf a = textIn (valuesAfter edits a)
      ∧ (empty.run edits).numberOf a = numberIn (valuesAfter edits a) := by
  rw [(canonical_run_empty edits).has_eq, (typed_run_empty edits).textOf_eq,
    (typed_run_empty edits).numberOf_eq, lookup_run_empty]
  exact ⟨rfl, rfl, rfl⟩

/-- **A bag is a partial map in canonical form.**  After any run of edits on the empty bag the entries
    stand in the order of the attributes, none twice; the bits are those of the entries and no others;
    every entry is of its attribute's kind; what is there, the texts and the numbers read as in the map
    that the same edits make; and one more edit changes no reading but those of its own attribute. -/
theorem run_updates_map (edits : List Edit) :
    let b := empty.run edits
    (b.entries.Pairwise fun e f => e.1.index < f.1.index)
      ∧ (∀ n, b.present.getLsbD n = true ↔ ∃ e ∈ b.entries, e.1.index = n)
      ∧ (∀ e ∈ b.entries, e.1.Fits e.2)
      ∧ (∀ a, b.has a = (valuesAfter edits a).isSome ∧ b.textOf a = textIn (valuesAfter edits a)
          ∧ b.numberOf a = numberIn (valuesAfter edits a))
      ∧ ∀ (d : Edit) (a : Attribute), a ≠ d.target →
          (b.edit d).has a = b.has a ∧ (b.edit d).textOf a = b.textOf a
            ∧ (b.edit d).numberOf a = b.numberOf a := by
  intro b
  have hcanonical : b.Canonical := canonical_run_empty edits
  have htyped : b.Typed := typed_run_empty edits
  refine ⟨hcanonical.ascending, hcanonical.tracked, fun e he => ?_, run_empty_reads edits,
    fun d a hother => ?_⟩
  · exact htyped e.1 e.2 ((hcanonical.mem_entries_iff e).1 he)
  · have hsame : (b.edit d).lookup a = b.lookup a := by
      rw [lookup_edit, Edit.update, Function.update_of_ne hother]
    rw [(hcanonical.edit d).has_eq, hcanonical.has_eq, (htyped.edit d).textOf_eq, htyped.textOf_eq,
      (htyped.edit d).numberOf_eq, htyped.numberOf_eq, hsame]
    exact ⟨rfl, rfl, rfl⟩

/-- A duration that is counted down past its least value wraps, and a text there is not written. -/
example :
    let b := empty.run [.setDuration (-2147483648), .setText .duration "x", .decreaseDuration 1]
    b.numberOf .duration = 2147483647 ∧ b.presence = 128 := by
  decide

end Bag

end Realm
