/-
  Realm.Proofs.Item.UniqueId — a unique id is written once.

  An item gets its unique id by a call or from any place in bytes that are read into it, and whatever
  else is done to the item rewrites other attributes of the same bag.  `WritesOnce` says how the unique
  id may change from one bag to the next: it stays, or it is written where there was none.  Such changes
  follow each other, so what holds of one record holds of a run of records, and what holds of one deed
  of a run of deeds.

  Main statements:
  * `WritesOnce.trans` — a unique id that was written is not written again;
  * `writesOnce_after`, `count_after_ne_one` — what a deed does to the unique id and to the count;
  * `uniqueId_written_once` — items that were made, after any deeds.
-/
import Realm.Proofs.Item.Edits
import Realm.Proofs.Item.Reload
import Realm.Proofs.Item.Stopping

namespace Realm

/-! ## §1. How a unique id may change. -/

namespace Bag

/-- **The unique id stays as it is, or is written where there was none.**  One that is written is at
    least 1000. -/
inductive WritesOnce (b b' : Bag) : Prop
  | kept (same : b'.lookup .uniqueId = b.lookup .uniqueId)
  | written {n : UInt16} (free : b.uniqueId = 0) (least : 1000 ≤ n)
      (held : b'.lookup .uniqueId = some (.word n))

theorem uniqueId_congr {b b' : Bag} (h : b'.lookup .uniqueId = b.lookup .uniqueId) :
    b'.uniqueId = b.uniqueId := word16_congr h

theorem uniqueId_of_lookup {b : Bag} {n : UInt16} (h : b.lookup .uniqueId = some (.word n)) :
    b.uniqueId = n := word16_of_lookup rfl h

/-- What is at least 1000 is a unique id. -/
theorem ne_zero_of_least {n : UInt16} (h : 1000 ≤ n) : n ≠ 0 := by
  rintro rfl
  exact absurd h (by decide)

namespace WritesOnce

variable {b b' b'' : Bag}

theorem refl (b : Bag) : WritesOnce b b := .kept rfl

/-- **A unique id that was written is not written again.** -/
theorem trans (h : WritesOnce b b') (h' : WritesOnce b' b'') : WritesOnce b b'' := by
  cases h with
  | kept same =>
    cases h' with
    | kept same' => exact .kept (same'.trans same)
    | written free least held => exact .written ((uniqueId_congr same).symm.trans free) least held
  | written free least held =>
    cases h' with
    | kept same' => exact .written free least (same'.trans held)
    | written free' =>
      rw [uniqueId_of_lookup held] at free'
      exact absurd free' (ne_zero_of_least least)

theorem put {a : Attribute} (ha : a ≠ .uniqueId) (b : Bag) (v : AttributeValue) :
    WritesOnce b (b.put a v) := .kept (by rw [lookup_put, if_neg ha])

theorem remove {a : Attribute} (ha : a ≠ .uniqueId) (b : Bag) : WritesOnce b (b.remove a) :=
  .kept (by rw [lookup_remove, if_neg ha])

/-- A unique id that is there stays. -/
theorem uniqueId_eq (h : WritesOnce b b') (hset : b.uniqueId ≠ 0) : b'.uniqueId = b.uniqueId := by
  cases h with
  | kept same => exact uniqueId_congr same
  | written free => exact absurd free hset

/-- There is no unique id below 1000, when there was none before. -/
theorem least_of_ne_zero (h : WritesOnce b b') (hb : b.uniqueId ≠ 0 → 1000 ≤ b.uniqueId)
    (hset : b'.uniqueId ≠ 0) : 1000 ≤ b'.uniqueId := by
  cases h with
  | kept same =>
    rw [uniqueId_congr same] at hset ⊢
    exact hb hset
  | written _ least held =>
    rw [uniqueId_of_lookup held]
    exact least

end WritesOnce

end Bag

/-! ## §2. Deeds. -/

namespace Item

/-- **What is done to an item,** but for handing it attributes from outside.  Every deed brings the
    catalogue that it goes by. -/
inductive Deed
  | setUniqueId (n : UInt16)
  | setCount (n : UInt8)
  | setSubtype (c : Catalogue) (n : UInt16)
  | setDefaultSubtype (c : Catalogue)
  | setId (c : Catalogue) (id : UInt16)
  /-- Records are read into the item, as far as they go. -/
  | read (c : Catalogue) (bytes : Cursor)

/-- An item after a deed. -/
def after (i : Item) : Deed → Item
  | .setUniqueId n => i.setUniqueId n
  | .setCount n => i.setCount n
  | .setSubtype c n => i.setSubtype c n
  | .setDefaultSubtype c => i.setDefaultSubtype c
  | .setId c id => i.setId c id
  | .read c bytes => (i.decodeRecords c bytes).2.1

/-- An item after deeds, one after the other. -/
def run (i : Item) (deeds : List Deed) : Item := deeds.foldl after i

/-- **How items are made:** as new ones, and from bytes. -/
inductive Made : Item → Prop
  | new (c : Catalogue) (id amount : UInt16) : Made (Item.new c id amount)
  | decoded {c : Catalogue} {bytes : Cursor} {d : DecodedItem} (h : decode c bytes = .ok d) :
      Made d.item

/-- **An item that was made is a new one after some deeds:** of bytes, the records are read into it. -/
theorem Made.exists_run {i : Item} (h : Made i) :
    ∃ c id amount deeds, i = (Item.new c id amount).run deeds := by
  cases h with
  | new c id amount => exact ⟨c, id, amount, [], rfl⟩
  | @decoded c bytes d h =>
    unfold decode at h
    split at h
    · cases h
    · next id behind _ =>
      refine ⟨c, id, 0, [.read c behind], ?_⟩
      show d.item = ((Item.new c id 0).decodeRecords c behind).2.1
      split at h
      · next hread => rw [hread, ← Except.ok.inj h]
      · next hread => rw [hread, ← Except.ok.inj h]
      · cases h

variable (c : Catalogue) (i : Item)

/-- What records are read into an item is a run of them. -/
theorem exists_foldl_decodeRecords (bytes : Cursor) :
    ∃ records : List Record,
      (i.decodeRecords c bytes).2.1 = records.foldl (applyRecord c) i := by
  obtain ⟨position, rest⟩ := bytes
  obtain ⟨run, records, behind, stop, n, rfl, hrun, hstops⟩ := Record.exists_run rest
  exact ⟨records, by rw [decodeRecords_of_run c i hrun hstops]⟩

/-! ## §3. The unique id. -/

theorem lookup_uniqueId_setUniqueId {i : Item} (hfree : i.attributes.uniqueId = 0) (n : UInt16) :
    (i.setUniqueId n).attributes.lookup .uniqueId = some (.word (max n 1000)) := by
  have hwrites : i.setUniqueId n = i.setAttributes (·.setUniqueId n) := by
    unfold setUniqueId
    rw [hfree]
    rfl
  rw [hwrites]
  show (i.attributes.setUniqueId n).lookup .uniqueId = _
  rw [Bag.setUniqueId_eq_put, Bag.lookup_put, if_pos rfl]

theorem le_max_least (n : UInt16) : 1000 ≤ max n 1000 := by
  rw [UInt16.le_iff_toNat_le, Bag.toNat_word_max]
  exact Nat.le_max_right _ _

/-- The first unique id is written, and no other. -/
theorem writesOnce_setUniqueId (n : UInt16) :
    Bag.WritesOnce i.attributes (i.setUniqueId n).attributes := by
  by_cases hfree : i.attributes.uniqueId = 0
  · exact .written hfree (le_max_least n) (lookup_uniqueId_setUniqueId hfree n)
  · have hskips : i.setUniqueId n = i := by
      unfold setUniqueId
      rw [if_pos (by simpa using hfree)]
    rw [hskips]
    exact .refl _

/-- The attribute of a subtype is not the unique id. -/
theorem subtypeAttribute?_ne_uniqueId (t : ItemType) : t.subtypeAttribute? ≠ some .uniqueId := by
  simp [ItemType.subtypeAttribute?_eq_some]

/-- A record that is about something else leaves the unique id. -/
theorem sets_uniqueId (t : ItemType) (r : Record) : r.sets t .uniqueId = none := by
  have hsubtype := subtypeAttribute?_ne_uniqueId t
  cases r with
  | count n => rw [Record.sets_count, if_neg hsubtype]
  | charges n => rw [Record.sets_charges, if_neg hsubtype]
  | text s => rw [Record.sets_text, if_neg (by simp)]
  | writer s => rw [Record.sets_writer, if_neg (by simp)]
  | description s => rw [Record.sets_description, if_neg (by simp)]
  | decayState n => rw [Record.sets_decayState, if_neg (by simp)]
  | _ => rfl

theorem lookup_uniqueId_applyRecord {r : Record} (hr : ∀ n, r ≠ .uniqueId n) :
    (i.applyRecord c r).attributes.lookup .uniqueId = i.attributes.lookup .uniqueId := by
  rw [lookup_applyRecord c i hr, sets_uniqueId]
  rfl

theorem lookup_uniqueId_foldl_applyRecord {records : List Record}
    (h : ∀ n, Record.uniqueId n ∉ records) :
    (records.foldl (applyRecord c) i).attributes.lookup .uniqueId
      = i.attributes.lookup .uniqueId := by
  induction records generalizing i with
  | nil => rfl
  | cons r records ih =>
    have hr : ∀ n, r ≠ .uniqueId n := by
      rintro n rfl
      exact h n List.mem_cons_self
    rw [List.foldl_cons, ih _ fun n hn => h n (List.mem_cons_of_mem r hn),
      lookup_uniqueId_applyRecord c i hr]

theorem writesOnce_applyRecord (r : Record) :
    Bag.WritesOnce i.attributes (i.applyRecord c r).attributes := by
  by_cases hid : ∃ n, r = .uniqueId n
  · obtain ⟨n, rfl⟩ := hid
    exact writesOnce_setUniqueId i n
  · exact .kept (lookup_uniqueId_applyRecord c i fun n hr => hid ⟨n, hr⟩)

/-- **Records write a unique id at most once,** wherever they say one. -/
theorem writesOnce_foldl_applyRecord (records : List Record) :
    Bag.WritesOnce i.attributes (records.foldl (applyRecord c) i).attributes := by
  induction records generalizing i with
  | nil => exact .refl _
  | cons r records ih => exact (writesOnce_applyRecord c i r).trans (ih _)

theorem writesOnce_setDefaultSubtype :
    Bag.WritesOnce i.attributes (i.setDefaultSubtype c).attributes := by
  unfold setDefaultSubtype
  extract_lets t j
  split
  · split
    · exact .refl _
    · show Bag.WritesOnce i.attributes (i.attributes.setCharges _)
      rw [Bag.setCharges_eq_put]
      exact .put (by decide) _ _
  · exact .refl _

/-- Turning an item into another type is about its decay and its corpse owner. -/
theorem writesOnce_setId (id : UInt16) : Bag.WritesOnce i.attributes (i.setId c id).attributes := by
  unfold setId
  extract_lets stoodStill t millis timeless b₀ b₁ b₂ b₃
  have hstripped : Bag.WritesOnce b₀ b₁ := by
    show Bag.WritesOnce b₀ (if timeless then _ else _)
    split
    · exact (Bag.WritesOnce.remove (by decide) _).trans (.remove (by decide) _)
    · exact .refl _
  have hunowned : Bag.WritesOnce b₁ b₂ := .remove (by decide) _
  have hrestarted : Bag.WritesOnce b₂ b₃ := by
    show Bag.WritesOnce b₂ (if _ then _ else _)
    split
    · exact (Bag.WritesOnce.put (by decide) _ _).trans (.put (by decide) _ _)
    · exact .refl _
  exact (hstripped.trans hunowned).trans hrestarted

/-- **No deed changes a unique id that is there.** -/
theorem writesOnce_after (d : Deed) : Bag.WritesOnce i.attributes (i.after d).attributes := by
  cases d with
  | setUniqueId n => exact writesOnce_setUniqueId i n
  | setCount n => exact .refl _
  -- a subtype is set as a record of charges sets it
  | setSubtype c n => exact writesOnce_applyRecord c i (.charges n)
  | setDefaultSubtype c => exact writesOnce_setDefaultSubtype c i
  | setId c id => exact writesOnce_setId c i id
  | read c bytes =>
    obtain ⟨records, hread⟩ := exists_foldl_decodeRecords c i bytes
    show Bag.WritesOnce i.attributes (i.decodeRecords c bytes).2.1.attributes
    rw [hread]
    exact writesOnce_foldl_applyRecord c i records

theorem writesOnce_run (deeds : List Deed) :
    Bag.WritesOnce i.attributes (i.run deeds).attributes := by
  induction deeds generalizing i with
  | nil => exact .refl _
  | cons d deeds ih => exact (writesOnce_after i d).trans (ih _)

/-- A new item has no unique id. -/
theorem uniqueId_new (id amount : UInt16) : (new c id amount).attributes.uniqueId = 0 := by
  apply Bag.word16_of_lookup_none
  rw [lookup_new, if_neg (by decide), if_neg (subtypeAttribute?_ne_uniqueId _)]

/-! ## §4. The count. -/

theorem stored_ne_one (n : UInt8) : Record.stored n ≠ 1 := by
  rw [Record.stored_eq]
  split
  · decide
  · assumption

theorem ne_one_of_counts {t : ItemType} {r : Record} {n : UInt8} (h : r.counts t = some n) :
    n ≠ 1 := by
  have hsubtype : ∀ m : UInt16, Record.subtypeCount t m = some n → n ≠ 1 := by
    intro m hm
    unfold Record.subtypeCount at hm
    split at hm
    · rw [← Option.some.inj hm]
      exact stored_ne_one _
    · cases hm
  cases r with
  | count m => exact hsubtype _ h
  | charges m => exact hsubtype m h
  | _ => cases h

/-- A record stores no count of one. -/
theorem count_applyRecord_ne_one {i : Item} (h : i.count ≠ 1) (r : Record) :
    (i.applyRecord c r).count ≠ 1 := by
  rw [count_applyRecord]
  cases hcounts : r.counts (i.type c) with
  | none => exact h
  | some n => exact ne_one_of_counts hcounts

theorem count_foldl_applyRecord_ne_one {i : Item} (h : i.count ≠ 1) (records : List Record) :
    (records.foldl (applyRecord c) i).count ≠ 1 := by
  induction records generalizing i with
  | nil => exact h
  | cons r records ih => exact ih (count_applyRecord_ne_one c h r)

theorem count_setDefaultSubtype_ne_one : (i.setDefaultSubtype c).count ≠ 1 := by
  unfold setDefaultSubtype
  extract_lets t j
  split
  · split
    · exact stored_ne_one _
    · exact stored_ne_one 1
  · exact stored_ne_one 1

/-- **No deed makes the count one.** -/
theorem count_after_ne_one {i : Item} (h : i.count ≠ 1) (d : Deed) : (i.after d).count ≠ 1 := by
  cases d with
  | setUniqueId n => exact count_applyRecord_ne_one .empty h (.uniqueId n)
  | setCount n => exact stored_ne_one n
  | setSubtype c n => exact count_applyRecord_ne_one c h (.charges n)
  | setDefaultSubtype c => exact count_setDefaultSubtype_ne_one c i
  | setId c id => exact h
  | read c bytes =>
    obtain ⟨records, hread⟩ := exists_foldl_decodeRecords c i bytes
    show (i.decodeRecords c bytes).2.1.count ≠ 1
    rw [hread]
    exact count_foldl_applyRecord_ne_one c h records

theorem count_run_ne_one {i : Item} (h : i.count ≠ 1) (deeds : List Deed) :
    (i.run deeds).count ≠ 1 := by
  induction deeds generalizing i with
  | nil => exact h
  | cons d deeds ih => exact ih (count_after_ne_one h d)

theorem count_new_ne_one (id amount : UInt16) : (new c id amount).count ≠ 1 := by
  rw [new_count]
  split
  · decide
  · exact stored_ne_one _

/-! ## §5. Items that were made. -/

/-- An item with a unique id does not decay, whatever its type. -/
theorem canDecay_of_uniqueId {i : Item} (h : i.attributes.uniqueId ≠ 0) (c : Catalogue) :
    i.canDecay c = false := by
  have hset : (i.attributes.uniqueId == 0) = false := by simpa using h
  rw [canDecay, hset, Bool.false_and, Bool.false_and]

/-- A unique id that bytes say is a record of its own. -/
theorem run_uniqueId (n : UInt16) :
    Record.Run (Tag.uniqueId :: littleEndian 2 n.toNat) [.uniqueId n] := by
  have hwhole : Record.Whole Tag.uniqueId (littleEndian 2 n.toNat) :=
    ⟨by decide, .bytes 2, rfl, rfl⟩
  have hrecord : Record.ofPayload Tag.uniqueId (littleEndian 2 n.toNat) = .uniqueId n := by
    show Record.uniqueId (.ofNat (ofLittleEndian (littleEndian 2 n.toNat))) = _
    have hfits : n.toNat % capacity 2 = n.toNat := Nat.mod_eq_of_lt n.toNat_lt
    rw [ofLittleEndian_littleEndian, hfits, UInt16.ofNat_toNat]
  have hrun := Record.Run.cons hwhole .nil
  rw [hrecord, List.append_nil] at hrun
  exact hrun

theorem uniqueId_setUniqueId {i : Item} (hfree : i.attributes.uniqueId = 0) (n : UInt16) :
    (i.setUniqueId n).attributes.uniqueId = max n 1000 :=
  Bag.uniqueId_of_lookup (lookup_uniqueId_setUniqueId hfree n)

/-- **The first unique id that bytes say is written,** wherever it stands among whole records. -/
theorem uniqueId_decodeRecords {i : Item} (hfree : i.attributes.uniqueId = 0)
    {run : List UInt8} {records : List Record} (hrun : Record.Run run records)
    (hnone : ∀ m, Record.uniqueId m ∉ records) (n : UInt16) (position : Nat) (rest : List UInt8) :
    (i.decodeRecords c ⟨position, run ++ (Tag.uniqueId :: littleEndian 2 n.toNat ++ rest)⟩
      ).2.1.attributes.uniqueId = max n 1000 := by
  rw [decodeRecords_append c i hrun, decodeRecords_append c _ (run_uniqueId n)]
  have hfree' : (records.foldl (applyRecord c) i).attributes.uniqueId = 0 :=
    (Bag.uniqueId_congr (lookup_uniqueId_foldl_applyRecord c i hnone)).trans hfree
  generalize records.foldl (applyRecord c) i = j at hfree' ⊢
  have hwritten := uniqueId_setUniqueId hfree' n
  have hset : (j.setUniqueId n).attributes.uniqueId ≠ 0 := by
    rw [hwritten]
    exact Bag.ne_zero_of_least (le_max_least n)
  -- what stands behind the record is read into an item that has its unique id
  exact ((writesOnce_after (j.setUniqueId n) (.read c _)).uniqueId_eq hset).trans hwritten

/-- **A unique id is written once.**  Take an item that was made, in one way or the other, any deeds,
    and any more of them; deeds may read any bytes, and go on after those that cannot be read.

    * A unique id that the item has after the first deeds is at least 1000; after the others it is the
      same, and the item does not decay, whatever it was turned into.
    * While it has none, the next one is written, raised to 1000: one that is set, and the first one
      that bytes say among their whole records.
    * Its count is not one. -/
theorem uniqueId_written_once {i : Item} (h : Made i) (deeds more : List Deed) :
    let j := i.run deeds
    let k := j.run more
    (j.attributes.uniqueId ≠ 0 → 1000 ≤ j.attributes.uniqueId
        ∧ k.attributes.uniqueId = j.attributes.uniqueId ∧ ∀ c, k.canDecay c = false)
      ∧ (j.attributes.uniqueId = 0 → ∀ n : UInt16,
          (j.setUniqueId n).attributes.uniqueId = max n 1000
            ∧ ∀ (c : Catalogue) (position : Nat) (run rest : List UInt8) (records : List Record),
              Record.Run run records → (∀ m, Record.uniqueId m ∉ records) →
              (j.decodeRecords c ⟨position, run ++ (Tag.uniqueId :: littleEndian 2 n.toNat ++ rest)⟩
                ).2.1.attributes.uniqueId = max n 1000)
      ∧ j.count ≠ 1 := by
  intro j k
  obtain ⟨c₀, id, amount, first, rfl⟩ := h.exists_run
  have hmade : Bag.WritesOnce (new c₀ id amount).attributes j.attributes :=
    (writesOnce_run _ first).trans (writesOnce_run _ deeds)
  refine ⟨fun hset => ?_, fun hfree n => ⟨uniqueId_setUniqueId hfree n, ?_⟩, ?_⟩
  · have hleast : 1000 ≤ j.attributes.uniqueId :=
      hmade.least_of_ne_zero (fun hnew => absurd (uniqueId_new c₀ id amount) hnew) hset
    have hkept : k.attributes.uniqueId = j.attributes.uniqueId :=
      (writesOnce_run j more).uniqueId_eq hset
    exact ⟨hleast, hkept, canDecay_of_uniqueId (by rw [hkept]; exact hset)⟩
  · intro c position run rest records hrun hnone
    exact uniqueId_decodeRecords c hfree hrun hnone n position rest
  · exact count_run_ne_one (count_run_ne_one (count_new_ne_one c₀ id amount) first) deeds

/-- Torches that burn for ten minutes, and what is left of them. -/
def torches : Catalogue :=
  ⟨(({} : Std.ExtTreeMap UInt16 ItemType).insert 2051
    { id := 2051, name := "lit torch", decayTo := some 2050, decayTimeSecs := 600, stopTime := true
      }).insert 2050 { id := 2050, name := "burnt torch" }⟩

/-- A torch that comes from bytes with its unique id burns down and is lit again, and bytes with another
    unique id, which then end too early, are read into it. -/
theorem uniqueId_written_once_torch :
    let bytes : Cursor := ⟨0, [0x03, 0x08, Tag.uniqueId, 0xD0, 0x07, Tag.finish]⟩
    let i := ((Item.new torches 2051 0).setUniqueId 2000)
    let more : List Deed := [.setUniqueId 3000, .setId torches 2050,
      .read torches ⟨0, [Tag.uniqueId, 0xA0, 0x0F, Tag.text, 5]⟩, .setId torches 2051]
    decode torches bytes = .ok ⟨i, none, ⟨6, []⟩⟩ ∧ i.attributes.uniqueId ≠ 0
      ∧ (i.run more).attributes.uniqueId = 2000 ∧ (i.run more).canDecay torches = false
      ∧ (Item.new torches 2051 0).canDecay torches = true := by
  intro bytes i more
  have hdecode : decode torches bytes = .ok ⟨i, none, ⟨6, []⟩⟩ := by rfl
  have hset : i.attributes.uniqueId ≠ 0 := by decide
  obtain ⟨-, hkept, hstays⟩ := (uniqueId_written_once (.decoded hdecode) [] more).1 hset
  exact ⟨hdecode, hset, hkept.trans (by decide), hstays torches, by decide⟩

end Item

end Realm
