/-
  Realm.Proofs.Item.Equality — two bags of attributes are equal when they answer alike.

  Equality compares the bits and the entries of two bags.  A bag that was made by edits keeps its entries
  in one order and under each attribute a value of its kind, so nothing of how it was made can be told from
  the bag but what it answers: whether an attribute is there, and the text and the number that it reads as.

  Main statements:
  * `eq_iff_answersAlike` — equality is answering alike under every attribute;
  * `edit_comm` — edits of two attributes can be made in either order;
  * `edit_remove` — an edit makes good for a removal when it brings back what was there;
  * `equality_observational` — all of it for bags that any two runs of edits make.
-/
import Realm.Proofs.Item.Edits

namespace Realm

namespace Bag

/-! ## §1. Answers. -/

/-- **A bag in order:** its entries are canonical, and each is of its attribute's kind. -/
structure Orderly (b : Bag) : Prop where
  canonical : b.Canonical
  typed : b.Typed

/-- Every run of edits on the empty bag leaves a bag in order. -/
theorem orderly_run_empty (edits : List Edit) : (empty.run edits).Orderly :=
  ⟨canonical_run_empty edits, typed_run_empty edits⟩

theorem Orderly.edit {b : Bag} (h : b.Orderly) (d : Edit) : (b.edit d).Orderly :=
  ⟨h.canonical.edit d, h.typed.edit d⟩

/-- What a bag in order has, it holds a value of the right kind for. -/
theorem Orderly.exists_lookup {b : Bag} (h : b.Orderly) {a : Attribute} (hhas : b.has a = true) :
    ∃ v, b.lookup a = some v ∧ a.Fits v := by
  rw [h.canonical.has_eq] at hhas
  obtain ⟨v, hv⟩ := Option.isSome_iff_exists.1 hhas
  exact ⟨v, hv, h.typed a v hv⟩

/-- **Two bags answer alike** under an attribute: both have it or neither does, and they read as the same
    text and as the same number there. -/
def AnswersAlike (b c : Bag) (a : Attribute) : Prop :=
  b.has a = c.has a ∧ b.textOf a = c.textOf a ∧ b.numberOf a = c.numberOf a

/-- Of two values of one kind, the text or the number tells them apart. -/
theorem eq_of_textIn_eq {a : Attribute} {v w : AttributeValue} (hv : a.Fits v) (hw : a.Fits w)
    (htext : textIn (some v) = textIn (some w)) (hnumber : numberIn (some v) = numberIn (some w)) :
    v = w := by
  cases v with
  | number n =>
    cases w with
    | number m => exact congrArg _ hnumber
    | text s => exact absurd hw.1 (Bool.eq_false_iff.1 hv)
  | text s =>
    cases w with
    | number m => exact absurd hv.1 (Bool.eq_false_iff.1 hw)
    | text t => exact congrArg _ htext

variable {b c : Bag}

/-- Bags that answer alike hold the same. -/
theorem AnswersAlike.lookup_eq {a : Attribute} (h : b.AnswersAlike c a) (hb : b.Orderly)
    (hc : c.Orderly) : b.lookup a = c.lookup a := by
  obtain ⟨hhas, htext, hnumber⟩ := h
  rw [hb.canonical.has_eq, hc.canonical.has_eq] at hhas
  rw [hb.typed.textOf_eq, hc.typed.textOf_eq] at htext
  rw [hb.typed.numberOf_eq, hc.typed.numberOf_eq] at hnumber
  cases hv : b.lookup a with
  | none =>
    rw [hv] at hhas
    exact (Option.isNone_iff_eq_none.1 (by rw [← Option.not_isSome, ← hhas]; rfl)).symm
  | some v =>
    rw [hv] at hhas htext hnumber
    obtain ⟨w, hw⟩ := Option.isSome_iff_exists.1 hhas.symm
    rw [hw] at htext hnumber
    rw [hw, eq_of_textIn_eq (hb.typed a v hv) (hc.typed a w hw) htext hnumber]

/-- **Bags in order are equal exactly if they answer alike** under every attribute. -/
theorem eq_iff_answersAlike (hb : b.Orderly) (hc : c.Orderly) :
    b = c ↔ ∀ a, b.AnswersAlike c a := by
  constructor
  · rintro rfl a
    exact ⟨rfl, rfl, rfl⟩
  · intro halike
    exact hb.canonical.ext hc.canonical fun a => (halike a).lookup_eq hb hc

/-! ## §2. Edits in another order. -/

/-- What an edit leaves alone, another edit finds as it was. -/
theorem Edit.update_comm {d e : Edit} (h : d.target ≠ e.target)
    (m : Attribute → Option AttributeValue) : e.update (d.update m) = d.update (e.update m) := by
  have hd : d.update m e.target = m e.target := Function.update_of_ne h.symm _ _
  have he : e.update m d.target = m d.target := Function.update_of_ne h _ _
  rw [Edit.update, hd, Edit.update, Edit.update, he, Edit.update]
  exact Function.update_comm h _ _ _

/-- **Edits of two attributes can be made in either order.** -/
theorem edit_comm (hb : b.Orderly) {d e : Edit} (h : d.target ≠ e.target) :
    (b.edit d).edit e = (b.edit e).edit d := by
  refine ((hb.edit d).edit e).canonical.ext ((hb.edit e).edit d).canonical fun a => ?_
  rw [lookup_edit, lookup_edit, lookup_edit, lookup_edit, Edit.update_comm h]

/-! ## §3. Edits that make good for a removal. -/

/-- **An edit makes good for a removal** when it leaves under its attribute what was there. -/
theorem edit_remove (hb : b.Orderly) {d : Edit} (h : d.outcome none = b.lookup d.target) :
    (b.remove d.target).edit d = b := by
  refine ((hb.canonical.remove d.target).edit d).ext hb.canonical fun a => ?_
  rw [lookup_edit, Edit.update, Function.update_apply, lookup_remove, if_pos rfl, h, lookup_remove]
  by_cases hown : a = d.target
  · rw [if_pos hown, hown]
  · rw [if_neg hown, if_neg (Ne.symm hown)]

/-- An edit that brings back the answers under its attribute makes good for a removal. -/
theorem edit_remove_of_answersAlike (hb : b.Orderly) {d : Edit}
    (h : ((b.remove d.target).edit d).AnswersAlike b d.target) :
    (b.remove d.target).edit d = b := by
  have hremoved : (b.remove d.target).Orderly := hb.edit (.remove d.target)
  have hlookup := h.lookup_eq (hremoved.edit d) hb
  rw [lookup_edit, Edit.update, Function.update_self, lookup_remove, if_pos rfl] at hlookup
  exact edit_remove hb hlookup

variable {a : Attribute}

/-- A text that is there is brought back by writing it again. -/
theorem setText_remove (hb : b.Orderly) (hhas : b.has a = true) (htext : a.isText = true) :
    (b.remove a).setText a (b.textOf a) = b := by
  obtain ⟨v, hv, hfits⟩ := hb.exists_lookup hhas
  cases v with
  | number n => exact absurd htext (Bool.eq_false_iff.1 hfits)
  | text s =>
    have hread : b.textOf a = s := by
      rw [hb.typed.textOf_eq, hv]
      rfl
    -- the text is not empty, so it is written
    refine edit_remove hb (d := .setText a (b.textOf a)) ?_
    show Edit.outcome (.setText a (b.textOf a)) none = b.lookup a
    rw [hread, hv]
    exact if_pos hfits

/-- A number that is there is brought back by writing it again. -/
theorem setNumber_remove (hb : b.Orderly) (hhas : b.has a = true) (hnumber : a.isText = false) :
    (b.remove a).setNumber a (b.numberOf a) = b := by
  obtain ⟨v, hv, hfits⟩ := hb.exists_lookup hhas
  cases v with
  | text s => exact absurd hfits.1 (Bool.eq_false_iff.1 hnumber)
  | number n =>
    have hread : b.numberOf a = n := by
      rw [hb.typed.numberOf_eq, hv]
      rfl
    refine edit_remove hb (d := .setNumber a (b.numberOf a)) ?_
    show Edit.outcome (.setNumber a (b.numberOf a)) none = b.lookup a
    rw [hread, hv]
    exact if_neg (Bool.eq_false_iff.1 hnumber)

/-! ## §4. Runs. -/

/-- **Equality of bags is observational.**  The bags that two runs of edits make of the empty one compare
    equal exactly if under every attribute they agree on whether it is there, on its text and on its number,
    whatever the runs were.  So two edits of different attributes that come next can be made in either
    order; an attribute that is there can be removed and its text or number written again; and any edit at
    all makes good for the removal of its attribute if the answers there are the old ones again. -/
theorem equality_observational (edits others : List Edit) :
    let b := empty.run edits
    let c := empty.run others
    (b == c ↔ ∀ a, b.has a = c.has a ∧ b.textOf a = c.textOf a ∧ b.numberOf a = c.numberOf a)
      ∧ (∀ d e : Edit, d.target ≠ e.target → (b.edit d).edit e == (b.edit e).edit d)
      ∧ (∀ a, b.has a → a.isText = true → (b.remove a).setText a (b.textOf a) == b)
      ∧ (∀ a, b.has a → a.isText = false → (b.remove a).setNumber a (b.numberOf a) == b)
      ∧ ∀ d : Edit, ((b.remove d.target).edit d).AnswersAlike b d.target →
          (b.remove d.target).edit d == b := by
  intro b c
  have hb : b.Orderly := orderly_run_empty edits
  have hc : c.Orderly := orderly_run_empty others
  refine ⟨?_, fun d e hother => ?_, fun a hhas htext => ?_, fun a hhas hnumber => ?_,
    fun d halike => ?_⟩
  · rw [beq_iff_eq]
    exact eq_iff_answersAlike hb hc
  · rw [beq_iff_eq]
    exact edit_comm hb hother
  · rw [beq_iff_eq]
    exact setText_remove hb hhas htext
  · rw [beq_iff_eq]
    exact setNumber_remove hb hhas hnumber
  · rw [beq_iff_eq]
    exact edit_remove_of_answersAlike hb halike

/-- Bags that read alike under every attribute may still differ: a number zero is there or is not. -/
example :
    let b := empty.run [.setDuration 5, .decreaseDuration 5]
    (∀ a ∈ Attribute.all, b.textOf a = "" ∧ b.numberOf a = 0) ∧ (b == empty) = false := by
  decide

end Bag

end Realm
