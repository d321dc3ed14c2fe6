/-
  Realm.Proofs.Item.Bag — what a bag of attributes holds after a change.

  A bag is read through `lookup`.  Each change says what it does to every lookup, whatever the order of
  the entries, so that no later proof opens the list of entries.  A canonical bag has its entries in
  order and a bit for each of them and for nothing else; writes and removals keep it so.

  Main statements:
  * `lookup_put` — the value just put is the one found, and no other attribute moves;
  * `lookup_remove` — an attribute that was removed is not found, and no other attribute moves;
  * `Canonical.put`, `Canonical.remove` — bits and entries stay in step;
  * `Canonical.ext` — canonical bags are equal when the same is found in them.
-/
import Realm.Item.Attribute

namespace Realm

namespace Bag

/-! ## §1. The two changes. -/

section

variable (entries : List (Attribute × AttributeValue)) (a : Attribute) (v : AttributeValue)
  (a' : Attribute)

/-- What a list of entries holds under an attribute, its first entry taken off. -/
theorem findIn?_cons (e : Attribute × AttributeValue) :
    findIn? a (e :: entries) = if e.1 = a then some e.2 else findIn? a entries := by
  rw [findIn?, List.find?_cons]
  by_cases hhead : e.1 = a
  · rw [beq_iff_eq.2 hhead, if_pos hhead]
    rfl
  · rw [beq_eq_false_iff_ne.2 hhead, if_neg hhead]
    rfl

theorem findIn?_putEntry :
    findIn? a' (putEntry a v entries) = if a = a' then some v else findIn? a' entries := by
  induction entries with
  | nil =>
    show findIn? a' [(a, v)] = _
    rw [findIn?_cons]
  | cons e rest ih =>
    unfold putEntry
    by_cases hsame : e.1 = a
    · -- the entry is replaced: nobody but the attribute itself could have found it
      rw [if_pos hsame, findIn?_cons, findIn?_cons, hsame]
      split <;> rfl
    · rw [if_neg hsame]
      split
      · rw [findIn?_cons]
      · rw [findIn?_cons, findIn?_cons, ih]
        by_cases hhead : e.1 = a'
        · have hother : a ≠ a' := fun h => hsame (hhead.trans h.symm)
          rw [if_pos hhead, if_neg hother, if_pos hhead]
        · rw [if_neg hhead, if_neg hhead]

theorem findIn?_filter (hother : a ≠ a') :
    findIn? a' (entries.filter fun e => e.1 != a) = findIn? a' entries := by
  induction entries with
  | nil => rfl
  | cons e rest ih =>
    rw [List.filter_cons, findIn?_cons]
    by_cases hsame : e.1 = a
    · have hout : ¬ (e.1 != a) = true := by simp [hsame]
      rw [if_neg hout, ih, hsame, if_neg hother]
    · have hin : (e.1 != a) = true := by simp [hsame]
      rw [if_pos hin, findIn?_cons, ih]

/-- A write sets the bit of its attribute, and leaves the other bits. -/
theorem getLsbD_put (b : Bag) (n : Nat) :
    (b.put a v).present.getLsbD n = (b.present.getLsbD n || decide (a.index = n)) := by
  show (b.present ||| a.flag).getLsbD n = _
  rw [BitVec.getLsbD_or, Attribute.getLsbD_flag]

/-- A removal clears the bit of its attribute, and leaves the other bits. -/
theorem getLsbD_remove (b : Bag) (n : Nat) :
    (b.remove a).present.getLsbD n = (b.present.getLsbD n && !decide (a.index = n)) := by
  unfold remove
  split
  · show (b.present &&& ~~~a.flag).getLsbD n = _
    rw [BitVec.getLsbD_and, BitVec.getLsbD_not, Attribute.getLsbD_flag]
    by_cases hwide : n < 32
    · rw [decide_eq_true hwide, Bool.true_and]
    · rw [BitVec.getLsbD_of_ge _ _ (Nat.le_of_not_lt hwide), Bool.false_and, Bool.false_and]
  · rename_i hclear
    by_cases hsame : a.index = n
    · have hbit : b.present.getLsbD n = false := hsame ▸ Bool.eq_false_iff.2 hclear
      rw [hbit, Bool.false_and]
    · rw [decide_eq_false hsame, Bool.not_false, Bool.and_true]

theorem has_put (b : Bag) : (b.put a v).has a' = (b.has a' || decide (a = a')) := by
  rw [has, getLsbD_put, has]
  congr 2
  exact propext ⟨Attribute.index_injective, congrArg Attribute.index⟩

theorem has_remove (b : Bag) : (b.remove a).has a' = (b.has a' && !decide (a = a')) := by
  rw [has, getLsbD_remove, has]
  congr 3
  exact propext ⟨Attribute.index_injective, congrArg Attribute.index⟩

@[simp] theorem lookup_empty : empty.lookup a = none := by
  cases a <;> rfl

/-- **After a write** the attribute holds the value, and the others hold what they held. -/
theorem lookup_put (b : Bag) :
    (b.put a v).lookup a' = if a = a' then some v else b.lookup a' := by
  have hentries : (b.put a v).entries = putEntry a v b.entries := rfl
  rw [lookup, lookup, has_put, hentries, findIn?_putEntry]
  by_cases hsame : a = a'
  · rw [if_pos hsame, if_pos hsame, decide_eq_true hsame, Bool.or_true, if_pos rfl]
  · rw [if_neg hsame, if_neg hsame, decide_eq_false hsame, Bool.or_false]

/-- **After a removal** the attribute is gone, and the others hold what they held. -/
theorem lookup_remove (b : Bag) :
    (b.remove a).lookup a' = if a = a' then none else b.lookup a' := by
  by_cases hsame : a = a'
  · rw [lookup, has_remove, decide_eq_true hsame, Bool.not_true, Bool.and_false, if_pos hsame]
    rfl
  · have hentries : findIn? a' (b.remove a).entries = findIn? a' b.entries := by
      unfold remove
      split
      · exact findIn?_filter _ _ _ hsame
      · rfl
    rw [lookup, has_remove, decide_eq_false hsame, Bool.not_false, Bool.and_true, if_neg hsame,
      lookup, hentries]

end

/-! ## §2. Words of 16 bits. -/

end Bag

/-- A word of 16 bits, as an attribute holds it. -/
def AttributeValue.word (n : UInt16) : AttributeValue := .number n.toUInt32.toInt32

namespace Bag

theorem toInt_word (n : UInt16) : n.toUInt32.toInt32.toInt = n.toNat := by
  have hbound : n.toNat < 65536 := n.toNat_lt
  have hsmall : 2 * n.toUInt32.toBitVec.toNat < 2 ^ 32 := by
    rw [UInt32.toNat_toBitVec, UInt16.toNat_toUInt32]
    omega
  show n.toUInt32.toBitVec.toInt = n.toNat
  rw [BitVec.toInt_eq_toNat_of_lt hsmall, UInt32.toNat_toBitVec, UInt16.toNat_toUInt32]

/-- Words are never negative, so signed and unsigned comparison agree on them. -/
theorem max_word (n m : UInt16) :
    max n.toUInt32.toInt32 m.toUInt32.toInt32 = (max n m).toUInt32.toInt32 := by
  have hle : n.toUInt32.toInt32 ≤ m.toUInt32.toInt32 ↔ n ≤ m := by
    rw [Int32.le_iff_toInt_le, toInt_word, toInt_word, UInt16.le_iff_toNat_le, Int.ofNat_le]
  show (if n.toUInt32.toInt32 ≤ m.toUInt32.toInt32 then _ else _)
    = (if n ≤ m then m else n).toUInt32.toInt32
  simp only [hle]
  split <;> rfl

/-- A word goes under its attribute, raised to a least value. -/
theorem setWord16_eq_put (b : Bag) {a : Attribute} (hnumber : a.isText = false) (n least : UInt16) :
    b.setWord16 a n least.toUInt32.toInt32 = b.put a (.word (max n least)) := by
  rw [setWord16, setNumber, max_word, if_neg (Bool.eq_false_iff.1 hnumber)]
  rfl

theorem word_max_zero (n : UInt16) : max n 0 = n := by
  show (if n ≤ 0 then 0 else n) = n
  split
  · exact UInt16.le_antisymm UInt16.zero_le ‹n ≤ 0›
  · rfl

theorem setActionId_eq_put (b : Bag) (n : UInt16) :
    b.setActionId n = b.put .actionId (.word (max n 100)) := b.setWord16_eq_put rfl n 100

theorem setUniqueId_eq_put (b : Bag) (n : UInt16) :
    b.setUniqueId n = b.put .uniqueId (.word (max n 1000)) := b.setWord16_eq_put rfl n 1000

theorem setCharges_eq_put (b : Bag) (n : UInt16) : b.setCharges n = b.put .charges (.word n) :=
  (b.setWord16_eq_put rfl n 0).trans (by rw [word_max_zero])

theorem setFluidType_eq_put (b : Bag) (n : UInt16) :
    b.setFluidType n = b.put .fluidType (.word n) :=
  (b.setWord16_eq_put rfl n 0).trans (by rw [word_max_zero])

theorem word16_of_lookup {b : Bag} {a : Attribute} {n : UInt16} (hnumber : a.isText = false)
    (h : b.lookup a = some (.word n)) : b.word16 a = n := by
  rw [word16, numberOf, h]
  show (if a.isText = true then (0 : Int32) else n.toUInt32.toInt32).toUInt32.toUInt16 = n
  rw [hnumber, if_neg Bool.false_ne_true, UInt32.toUInt32_toInt32, UInt16.toUInt16_toUInt32]

/-- A word hangs on its own attribute only. -/
theorem word16_congr {b b' : Bag} {a : Attribute} (h : b'.lookup a = b.lookup a) :
    b'.word16 a = b.word16 a := by
  rw [word16, word16, numberOf, numberOf, h]

theorem word16_of_lookup_none {b : Bag} {a : Attribute} (h : b.lookup a = none) : b.word16 a = 0 := by
  rw [word16, numberOf, h]
  rfl

/-! ## §3. Canonical bags. -/

/-- **The entries stand in the order of the attributes,** none of them twice, and the bits tell exactly
    which attributes have one. -/
structure Canonical (b : Bag) : Prop where
  ascending : b.entries.Pairwise fun e f => e.1.index < f.1.index
  tracked : ∀ n, b.present.getLsbD n = true ↔ ∃ e ∈ b.entries, e.1.index = n

theorem canonical_empty : empty.Canonical where
  ascending := .nil
  tracked n := by simp [empty]

theorem mem_of_mem_putEntry {a : Attribute} {v : AttributeValue} {e : Attribute × AttributeValue}
    {entries : List (Attribute × AttributeValue)} (h : e ∈ putEntry a v entries) :
    e = (a, v) ∨ e ∈ entries := by
  induction entries with
  | nil => exact .inl (List.mem_singleton.1 h)
  | cons f rest ih =>
    unfold putEntry at h
    split at h
    · rcases List.mem_cons.1 h with rfl | hrest
      · exact .inl rfl
      · exact .inr (List.mem_cons_of_mem f hrest)
    · split at h
      · exact List.mem_cons.1 h
      · rcases List.mem_cons.1 h with rfl | hrest
        · exact .inr List.mem_cons_self
        · exact (ih hrest).imp_right (List.mem_cons_of_mem f)

/-- A write adds its attribute to those that have an entry. -/
theorem exists_mem_putEntry_iff (a : Attribute) (v : AttributeValue) (p : Attribute → Prop)
    (entries : List (Attribute × AttributeValue)) :
    (∃ e ∈ putEntry a v entries, p e.1) ↔ p a ∨ ∃ e ∈ entries, p e.1 := by
  induction entries with
  | nil => simp [putEntry]
  | cons f rest ih =>
    unfold putEntry
    by_cases hsame : f.1 = a
    · simp [hsame]
    · rw [if_neg hsame]
      split
      · simp only [List.mem_cons, exists_eq_or_imp]
      · simp only [List.mem_cons, exists_eq_or_imp, ih]
        exact or_left_comm

theorem ascending_putEntry (a : Attribute) (v : AttributeValue)
    {entries : List (Attribute × AttributeValue)}
    (h : entries.Pairwise fun e f => e.1.index < f.1.index) :
    (putEntry a v entries).Pairwise fun e f => e.1.index < f.1.index := by
  induction entries with
  | nil => exact List.pairwise_singleton _ _
  | cons e rest ih =>
    obtain ⟨hhead, hrest⟩ := List.pairwise_cons.1 h
    unfold putEntry
    by_cases hsame : e.1 = a
    · rw [if_pos hsame]
      exact List.pairwise_cons.2 ⟨fun f hf => hsame ▸ hhead f hf, hrest⟩
    · rw [if_neg hsame]
      split
      · rename_i hbefore
        refine List.pairwise_cons.2 ⟨fun f hf => ?_, h⟩
        rcases List.mem_cons.1 hf with rfl | hf
        · exact hbefore
        · exact Nat.lt_trans hbefore (hhead f hf)
      · rename_i hnot
        refine List.pairwise_cons.2 ⟨fun f hf => ?_, ih hrest⟩
        rcases mem_of_mem_putEntry hf with rfl | hf
        · -- neither in front of the entry nor the same, so behind it
          have hother : e.1.index ≠ a.index := fun hindex => hsame (Attribute.index_injective hindex)
          show e.1.index < a.index
          omega
        · exact hhead f hf

namespace Canonical

variable {b b' : Bag}

/-- A write keeps bits and entries in step. -/
theorem put (h : b.Canonical) (a : Attribute) (v : AttributeValue) : (b.put a v).Canonical where
  ascending := ascending_putEntry a v h.ascending
  tracked n := by
    rw [getLsbD_put, Bool.or_eq_true, decide_eq_true_eq, h.tracked, or_comm]
    exact (exists_mem_putEntry_iff a v (·.index = n) b.entries).symm

/-- A removal keeps bits and entries in step. -/
theorem remove (h : b.Canonical) (a : Attribute) : (b.remove a).Canonical := by
  by_cases hhas : b.has a = true
  · have hremoved : (b.remove a).entries = b.entries.filter fun e => e.1 != a := by
      rw [Bag.remove, if_pos hhas]
    refine ⟨hremoved ▸ h.ascending.filter _, fun n => ?_⟩
    rw [getLsbD_remove, hremoved, Bool.and_eq_true, h.tracked, Bool.not_eq_true',
      decide_eq_false_iff_not]
    constructor
    · rintro ⟨⟨e, he, rfl⟩, hother⟩
      refine ⟨e, List.mem_filter.2 ⟨he, bne_iff_ne.2 ?_⟩, rfl⟩
      rintro rfl
      exact hother rfl
    · rintro ⟨e, he, rfl⟩
      obtain ⟨he, hother⟩ := List.mem_filter.1 he
      exact ⟨⟨e, he, rfl⟩, fun hindex =>
        bne_iff_ne.1 hother (Attribute.index_injective hindex.symm)⟩
  · rw [Bag.remove, if_neg hhas]
    exact h

/-- In a canonical bag the bits need not be asked: without its bit an attribute has no entry. -/
theorem lookup_eq (h : b.Canonical) (a : Attribute) : b.lookup a = findIn? a b.entries := by
  unfold lookup
  split
  · rfl
  · rename_i hclear
    have hnone : b.entries.find? (fun e => e.1 == a) = none := by
      rw [List.find?_eq_none]
      intro e he hsame
      exact hclear ((h.tracked a.index).2 ⟨e, he, congrArg Attribute.index (beq_iff_eq.1 hsame)⟩)
    rw [findIn?, hnone]
    rfl

/-- In a canonical bag, what is found under an attribute is what its one entry holds. -/
theorem mem_entries_iff (h : b.Canonical) (e : Attribute × AttributeValue) :
    e ∈ b.entries ↔ b.lookup e.1 = some e.2 := by
  rw [h.lookup_eq]
  have hascending := h.ascending
  generalize b.entries = entries at hascending
  induction entries with
  | nil => exact ⟨fun hnil => absurd hnil List.not_mem_nil, nofun⟩
  | cons f rest ih =>
    obtain ⟨hhead, hrest⟩ := List.pairwise_cons.1 hascending
    have hbehind : e ∈ rest ↔ findIn? e.1 rest = some e.2 := ih hrest
    rw [List.mem_cons, findIn?_cons, hbehind]
    by_cases hsame : f.1 = e.1
    · have hout : findIn? e.1 rest ≠ some e.2 := by
        rw [ne_eq, ← hbehind]
        intro hin
        have hlt := hhead e hin
        rw [hsame] at hlt
        exact Nat.lt_irrefl _ hlt
      rw [if_pos hsame, Option.some.injEq]
      constructor
      · rintro (rfl | hin)
        · rfl
        · exact absurd hin hout
      · intro hvalue
        exact .inl (Prod.ext hsame hvalue).symm
    · rw [if_neg hsame]
      constructor
      · rintro (rfl | hin)
        · exact absurd rfl hsame
        · exact hin
      · exact .inr

/-- **In a canonical bag the bit of an attribute says whether something is found there.** -/
theorem has_eq (h : b.Canonical) (a : Attribute) : b.has a = (b.lookup a).isSome := by
  unfold lookup
  split
  · rename_i hset
    obtain ⟨e, he, hindex⟩ := (h.tracked a.index).1 hset
    have hfound := (h.mem_entries_iff e).1 he
    rw [Attribute.index_injective hindex, h.lookup_eq] at hfound
    rw [hset, hfound]
    rfl
  · exact Bool.eq_false_iff.2 ‹_›

/-- **A canonical bag is determined by what is found in it.** -/
theorem ext (h : b.Canonical) (h' : b'.Canonical) (hsame : ∀ a, b.lookup a = b'.lookup a) :
    b = b' := by
  have hnodup : ∀ {b : Bag}, b.Canonical → b.entries.Nodup := by
    intro b hb
    refine hb.ascending.imp fun {e f} hlt => ?_
    rintro rfl
    exact Nat.lt_irrefl _ hlt
  have hperm : b.entries.Perm b'.entries := by
    refine (List.perm_ext_iff_of_nodup (hnodup h) (hnodup h')).2 fun e => ?_
    rw [h.mem_entries_iff, h'.mem_entries_iff, hsame]
  have hentries : b.entries = b'.entries :=
    hperm.eq_of_pairwise (fun e f _ _ hlt hgt => absurd hgt (Nat.lt_asymm hlt)) h.ascending
      h'.ascending
  have hpresent : b.present = b'.present := by
    refine BitVec.eq_of_getLsbD_eq fun n _ => ?_
    rw [Bool.eq_iff_iff, h.tracked, h'.tracked, hentries]
  cases b
  cases b'
  exact (Bag.mk.injEq ..).mpr ⟨hpresent, hentries⟩

end Canonical

end Bag

end Realm
