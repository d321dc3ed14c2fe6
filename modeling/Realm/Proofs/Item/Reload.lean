/-
  Realm.Proofs.Item.Reload — what an item is after a save and a load.

  Reading an item back makes a new one of its id and applies its records.  A record sets one attribute
  or the count, so each of them comes to what the last record that speaks of it says, or else to what a
  new item has.  The number that a type gives a meaning to is where records meet: a count and charges
  are written as two records and both read into that one number, the charges last.

  Main statements:
  * `lookup_reread`, `count_reread` — the last record decides;
  * `decode_encode_kept` — what is kept of an item whose type does not mix charges with a stack or a
    liquid;
  * `reread_new_subtype_iff` — a new item keeps its subtype and count exactly when its type does not
    mix them, or its subtype is zero.
-/
import Realm.Proofs.Item.Bag
import Realm.Proofs.Item.Records
import Realm.Proofs.Text.Utf8

namespace Realm

/-! ## §1. What a record says. -/

/-- The attribute that holds the one number of a type's items, when it is not the count. -/
def ItemType.subtypeAttribute? (t : ItemType) : Option Attribute :=
  if t.holdsLiquid then some .fluidType
  else if t.hasCharges && !t.stackable then some .charges
  else none

/-- Whether a type gives its items charges beside a count or a liquid. -/
def ItemType.mixesCharges (t : ItemType) : Bool := t.hasCharges && (t.stackable || t.holdsLiquid)

theorem ItemType.subtypeAttribute?_eq_some (t : ItemType) (a : Attribute) :
    t.subtypeAttribute? = some a
      ↔ t.holdsLiquid = true ∧ a = .fluidType
        ∨ (t.holdsLiquid = false ∧ t.hasCharges = true ∧ t.stackable = false) ∧ a = .charges := by
  unfold subtypeAttribute?
  cases t.holdsLiquid <;> cases t.hasCharges <;> cases t.stackable <;> simp [eq_comm]

namespace Record

/-- The attribute that a subtype is stored under, with the value there. -/
def subtypeSetting (t : ItemType) (n : UInt16) : Option (Attribute × AttributeValue) :=
  t.subtypeAttribute?.map fun a => (a, .word n)

/-- An empty text is not stored. -/
def textSetting (a : Attribute) (s : String) : Option (Attribute × AttributeValue) :=
  if s = "" then none else some (a, .text s)

/-- **The attribute that a record sets,** and its value.  A unique id is left out: whether it sticks
    hangs on the item. -/
def setting (t : ItemType) : Record → Option (Attribute × AttributeValue)
  | .count n => subtypeSetting t n.toUInt16
  | .charges n => subtypeSetting t n
  | .actionId n => some (.actionId, .word (max n 100))
  | .text s => textSetting .text s
  | .writer s => textSetting .writer s
  | .description s => textSetting .description s
  | .writtenDate n => some (.writtenDate, .number n.toInt32)
  | .duration n => some (.duration, .number (max n 0))
  | .decayState n =>
    if n = 0 then none else some (.decaying, .number DecayState.pending.toNumber)
  | .uniqueId _ | .foreign | .container _ => none

/-- What a record sets an attribute to. -/
def sets (t : ItemType) (a : Attribute) (r : Record) : Option AttributeValue :=
  (r.setting t).bind fun e => if e.1 = a then some e.2 else none

section

variable (t : ItemType) (a : Attribute)

theorem sets_of_subtypeSetting {r : Record} {n : UInt16} (h : r.setting t = subtypeSetting t n) :
    r.sets t a = if t.subtypeAttribute? = some a then some (.word n) else none := by
  rw [sets, h, subtypeSetting]
  cases t.subtypeAttribute? with
  | none => rfl
  | some held =>
    show (if held = a then some (AttributeValue.word n) else none) = _
    simp only [Option.some.injEq]

theorem sets_of_textSetting {r : Record} {held : Attribute} {s : String}
    (h : r.setting t = textSetting held s) :
    r.sets t a = if held = a ∧ s ≠ "" then some (.text s) else none := by
  rw [sets, h, textSetting]
  by_cases hempty : s = "" <;> simp [hempty]

@[simp] theorem sets_count (n : UInt8) :
    (count n).sets t a
      = if t.subtypeAttribute? = some a then some (.word n.toUInt16) else none :=
  sets_of_subtypeSetting t a rfl

@[simp] theorem sets_charges (n : UInt16) :
    (charges n).sets t a = if t.subtypeAttribute? = some a then some (.word n) else none :=
  sets_of_subtypeSetting t a rfl

@[simp] theorem sets_actionId (n : UInt16) :
    (actionId n).sets t a
      = if Attribute.actionId = a then some (.word (max n 100)) else none := rfl

@[simp] theorem sets_text (s : String) :
    (text s).sets t a = if Attribute.text = a ∧ s ≠ "" then some (.text s) else none :=
  sets_of_textSetting t a rfl

@[simp] theorem sets_writer (s : String) :
    (writer s).sets t a = if Attribute.writer = a ∧ s ≠ "" then some (.text s) else none :=
  sets_of_textSetting t a rfl

@[simp] theorem sets_description (s : String) :
    (description s).sets t a
      = if Attribute.description = a ∧ s ≠ "" then some (.text s) else none :=
  sets_of_textSetting t a rfl

@[simp] theorem sets_writtenDate (n : UInt32) :
    (writtenDate n).sets t a
      = if Attribute.writtenDate = a then some (.number n.toInt32) else none := rfl

@[simp] theorem sets_duration (n : Int32) :
    (duration n).sets t a
      = if Attribute.duration = a then some (.number (max n 0)) else none := rfl

@[simp] theorem sets_decayState (n : UInt8) :
    (decayState n).sets t a
      = if Attribute.decaying = a ∧ n ≠ 0 then some (.number DecayState.pending.toNumber)
        else none := by
  rw [sets, setting]
  by_cases hidle : n = 0 <;> simp [hidle]

end

/-- The stack count that is stored for `n`: one and none are the same. -/
def stored (n : UInt8) : UInt8 := if n > 1 then n else 0

theorem stored_eq (n : UInt8) : stored n = if n = 1 then 0 else n := by
  unfold stored
  by_cases hone : n = 1
  · rw [hone]
    rfl
  · by_cases hzero : n = 0
    · rw [hzero]
      rfl
    · have hmany : n > 1 := by grind
      rw [if_pos hmany, if_neg hone]

theorem stored_stored (n : UInt8) : stored (stored n) = stored n := by
  rw [stored_eq, stored_eq]
  by_cases hone : n = 1
  · rw [if_pos hone]
    rfl
  · rw [if_neg hone, if_neg hone]

/-- The count that a subtype is stored as, when it is stored as one. -/
def subtypeCount (t : ItemType) (n : UInt16) : Option UInt8 :=
  if t.subtypeAttribute?.isNone then some (stored n.toUInt8) else none

/-- What a record says of the count. -/
def counts (t : ItemType) : Record → Option UInt8
  | .count n => subtypeCount t n.toUInt16
  | .charges n => subtypeCount t n
  | _ => none

/-- What the last record that says anything says. -/
def last {β : Type} (told : Record → Option β) : List Record → Option β
  | [] => none
  | r :: rs => (last told rs).or (told r)

variable {β : Type} (told : Record → Option β)

theorem last_append (rs ss : List Record) :
    last told (rs ++ ss) = (last told ss).or (last told rs) := by
  induction rs with
  | nil =>
    show last told ss = (last told ss).or none
    rw [Option.or_none]
  | cons r rs ih =>
    show (last told (rs ++ ss)).or (told r) = (last told ss).or ((last told rs).or (told r))
    rw [ih, Option.or_assoc]

theorem last_when (needed : Bool) (r : Record) :
    last told (recordWhen needed r) = if needed then told r else none := by
  cases needed <;> rfl

end Record

/-! ## §2. Applying records. -/

namespace Item

variable (c : Catalogue) (i : Item)

/-- The subtype goes to the attribute that holds it, else to the count. -/
theorem setSubtype_eq (n : UInt16) :
    i.setSubtype c n = match (i.type c).subtypeAttribute? with
      | some a => i.setAttributes (·.put a (.word n))
      | none => i.setCount n.toUInt8 := by
  show (if (i.type c).holdsLiquid then _ else if (i.type c).hasCharges && !(i.type c).stackable then _
    else _) = _
  unfold ItemType.subtypeAttribute?
  by_cases hliquid : (i.type c).holdsLiquid = true
  · simp only [if_pos hliquid, Bag.setFluidType_eq_put]
  · by_cases hcharges : ((i.type c).hasCharges && !(i.type c).stackable) = true
    · simp only [if_neg hliquid, if_pos hcharges, Bag.setCharges_eq_put]
    · simp only [if_neg hliquid, if_neg hcharges]

theorem setSubtype_id (n : UInt16) : (i.setSubtype c n).id = i.id := by
  rw [setSubtype_eq]
  split <;> rfl

theorem applyRecord_id (r : Record) : (i.applyRecord c r).id = i.id := by
  cases r with
  | count n => exact setSubtype_id c i _
  | charges n => exact setSubtype_id c i n
  | uniqueId n =>
    show (i.setUniqueId n).id = i.id
    unfold setUniqueId
    split <;> rfl
  | decayState n =>
    show (if n = 0 then i else i.setAttributes (·.setDecaying .pending)).id = i.id
    split <;> rfl
  | _ => rfl

theorem lookup_setSubtype (n : UInt16) (a : Attribute) :
    (i.setSubtype c n).attributes.lookup a
      = ((Record.subtypeSetting (i.type c) n).bind fun e => if e.1 = a then some e.2 else none).or
        (i.attributes.lookup a) := by
  rw [setSubtype_eq, Record.subtypeSetting]
  cases (i.type c).subtypeAttribute? with
  | none => rfl
  | some held =>
    show (i.attributes.put held (.word n)).lookup a
      = (if held = a then some (AttributeValue.word n) else none).or (i.attributes.lookup a)
    rw [Bag.lookup_put]
    split <;> rfl

theorem lookup_setText (b : Bag) {kept : Attribute} (htext : kept.isText = true) (s : String)
    (a : Attribute) :
    (b.setText kept s).lookup a
      = ((Record.textSetting kept s).bind fun e => if e.1 = a then some e.2 else none).or
        (b.lookup a) := by
  unfold Bag.setText Record.textSetting
  rw [htext, Bool.true_and]
  by_cases hempty : s = ""
  · have hskip : ¬ (s != "") = true := by simp [hempty]
    rw [if_neg hskip, if_pos hempty]
    rfl
  · have hstore : (s != "") = true := by simp [hempty]
    rw [if_pos hstore, if_neg hempty, Bag.lookup_put]
    show _ = (if kept = a then some (AttributeValue.text s) else none).or (b.lookup a)
    split <;> rfl

/-- **One record and one attribute:** the attribute comes to what the record says of it, if anything. -/
theorem lookup_applyRecord {r : Record} (hr : ∀ n, r ≠ .uniqueId n) (a : Attribute) :
    (i.applyRecord c r).attributes.lookup a
      = (r.sets (i.type c) a).or (i.attributes.lookup a) := by
  have hput : ∀ (held : Attribute) (v : AttributeValue),
      (i.attributes.put held v).lookup a
        = (if held = a then some v else none).or (i.attributes.lookup a) := by
    intro held v
    rw [Bag.lookup_put]
    split <;> rfl
  cases r with
  | uniqueId n => exact absurd rfl (hr n)
  | count n => exact lookup_setSubtype c i _ a
  | charges n => exact lookup_setSubtype c i n a
  | actionId n =>
    show (i.attributes.setActionId n).lookup a = _
    rw [Bag.setActionId_eq_put]
    exact hput _ _
  | text s => exact lookup_setText i.attributes rfl s a
  | writer s => exact lookup_setText i.attributes rfl s a
  | description s => exact lookup_setText i.attributes rfl s a
  | writtenDate n => exact hput _ _
  | duration n => exact hput _ _
  | decayState n =>
    show (if n = 0 then i else i.setAttributes (·.setDecaying .pending)).attributes.lookup a = _
    rw [Record.sets, Record.setting]
    split
    · rfl
    · exact hput _ _
  | foreign => rfl
  | container n => rfl

/-- **One record and the count.** -/
theorem count_applyRecord (r : Record) :
    (i.applyRecord c r).count = (r.counts (i.type c)).getD i.count := by
  have hsubtype : ∀ n,
      (i.setSubtype c n).count = (Record.subtypeCount (i.type c) n).getD i.count := by
    intro n
    rw [setSubtype_eq, Record.subtypeCount]
    cases (i.type c).subtypeAttribute? <;> rfl
  cases r with
  | count n => exact hsubtype _
  | charges n => exact hsubtype n
  | uniqueId n =>
    show (i.setUniqueId n).count = i.count
    unfold setUniqueId
    split <;> rfl
  | decayState n =>
    show (if n = 0 then i else i.setAttributes (·.setDecaying .pending)).count = i.count
    split <;> rfl
  | _ => rfl

/-- **A run of records:** what is read off an item is what the last record that speaks of it says. -/
theorem read_foldl_applyRecord {β : Type} (read : Item → Option β)
    (told : ItemType → Record → Option β) (rs : List Record)
    (hstep : ∀ (i : Item), ∀ r ∈ rs, read (i.applyRecord c r) = (told (i.type c) r).or (read i)) :
    read (rs.foldl (applyRecord c) i) = (Record.last (told (i.type c)) rs).or (read i) := by
  induction rs generalizing i with
  | nil => rfl
  | cons r rs ih =>
    have htype : (i.applyRecord c r).type c = i.type c := by
      rw [type, type, applyRecord_id]
    rw [List.foldl_cons, ih _ (fun i r hr => hstep i r (List.mem_cons_of_mem _ hr)), htype,
      hstep i r List.mem_cons_self, ← Option.or_assoc]
    rfl

/-! ## §3. New items. -/

/-- The subtype that a new item is given, when it is not a count. -/
def firstSubtype (t : ItemType) (amount : UInt16) : UInt16 :=
  if t.holdsLiquid || amount > 1 then amount else t.charges.toUInt16

/-- The count that a new item is given, when its subtype is the count. -/
def firstCount (t : ItemType) (amount : UInt16) : UInt8 :=
  if amount != 0 then amount.toUInt8 else t.charges.toUInt8

/-- The attributes of a new item but for its decay. -/
def firstAttributes (t : ItemType) (amount : UInt16) : Bag :=
  match t.subtypeAttribute? with
  | some a => Bag.empty.put a (.word (firstSubtype t amount))
  | none => .empty

theorem lookup_firstAttributes (t : ItemType) (amount : UInt16) (a : Attribute) :
    (firstAttributes t amount).lookup a
      = if t.subtypeAttribute? = some a then some (.word (firstSubtype t amount)) else none := by
  unfold firstAttributes
  cases t.subtypeAttribute? with
  | none => exact Bag.lookup_empty a
  | some held =>
    show (Bag.empty.put held _).lookup a = _
    rw [Bag.lookup_put, Bag.lookup_empty]
    simp only [Option.some.injEq]

/-- **The amount of a new item** goes where its type has a meaning for it. -/
theorem setAmount_eq (t : ItemType) (id amount : UInt16) :
    setAmount t ⟨id, 0, .empty⟩ amount
      = ⟨id, if t.holdsLiquid || !t.stackable then 0 else Record.stored (firstCount t amount),
          firstAttributes t amount⟩ := by
  unfold setAmount firstAttributes ItemType.subtypeAttribute? firstSubtype firstCount
  by_cases hliquid : t.holdsLiquid = true
  · simp [hliquid, setAttributes, Bag.setFluidType_eq_put]
  by_cases hstack : t.stackable = true
  · by_cases hcharges : t.hasCharges = true
    · by_cases hamount : amount = 0 <;>
        simp [hliquid, hstack, hcharges, hamount, setCount, Record.stored]
    · -- without charges an amount of zero leaves the count at zero
      have hnone : t.charges = 0 := by simpa [ItemType.hasCharges] using hcharges
      by_cases hamount : amount = 0 <;>
        simp [hliquid, hstack, hcharges, hamount, hnone, setCount, Record.stored]
  · by_cases hcharges : t.hasCharges = true <;>
      simp [hliquid, hstack, hcharges, setAttributes, Bag.setCharges_eq_put]

theorem new_id (id amount : UInt16) : (new c id amount).id = id := by
  rw [new, setAmount_eq, setDefaultDuration]
  split <;> rfl

theorem new_count (id amount : UInt16) :
    (new c id amount).count
      = if (c.typeOf id).holdsLiquid || !(c.typeOf id).stackable then 0
        else Record.stored (firstCount (c.typeOf id) amount) := by
  rw [new, setAmount_eq, setDefaultDuration]
  split <;> rfl

/-- **A new item** has its subtype, when that is not the count, and its whole decay time. -/
theorem lookup_new (id amount : UInt16) (a : Attribute) :
    (new c id amount).attributes.lookup a
      = if a = .duration then
          if (c.typeOf id).decayMillis = 0 then none
          else some (.number (c.typeOf id).decayMillis)
        else if (c.typeOf id).subtypeAttribute? = some a then
          some (.word (firstSubtype (c.typeOf id) amount))
        else none := by
  rw [new, setAmount_eq, setDefaultDuration]
  by_cases hmillis : (c.typeOf id).decayMillis = 0
  · rw [if_pos hmillis, if_pos hmillis]
    show (firstAttributes _ amount).lookup a = _
    rw [lookup_firstAttributes]
    by_cases hduration : a = .duration
    · rw [if_pos hduration, if_neg]
      rw [hduration]
      simp [ItemType.subtypeAttribute?_eq_some]
    · rw [if_neg hduration]
  · rw [if_neg hmillis, if_neg hmillis]
    show ((firstAttributes _ amount).put .duration _).lookup a = _
    rw [Bag.lookup_put, lookup_firstAttributes]
    simp only [eq_comm]

/-! ## §4. Reading back. -/

/-- An item is written without its unique id. -/
theorem ne_uniqueId_of_mem_records {r : Record} (hr : r ∈ i.records c) (n : UInt16) :
    r ≠ .uniqueId n := by
  have hwhen : ∀ (needed : Bool) (said : Record), r ∈ recordWhen needed said → r = said := by
    intro needed said h
    cases needed with
    | false => exact absurd h (List.not_mem_nil)
    | true => exact List.mem_singleton.1 h
  simp only [records, List.mem_append] at hr
  rintro rfl
  obtain (((((((h | h) | h) | h) | h) | h) | h) | h) | h := hr <;> exact absurd (hwhen _ _ h) nofun

/-- **Attributes after a load:** the last record that speaks of one decides. -/
theorem lookup_reread (a : Attribute) :
    (i.reread c).attributes.lookup a
      = (Record.last (Record.sets (i.type c) a) (i.records c)).or
        ((new c i.id 0).attributes.lookup a) := by
  have htype : (new c i.id 0).type c = i.type c := by
    rw [type, type, new_id]
  rw [reread, read_foldl_applyRecord c _ (fun i => i.attributes.lookup a) (fun t => Record.sets t a)
    (i.records c) (fun j r hr => lookup_applyRecord c j (ne_uniqueId_of_mem_records c i hr) a), htype]

/-- **The count after a load.** -/
theorem count_reread :
    (i.reread c).count
      = (Record.last (Record.counts (i.type c)) (i.records c)).getD (new c i.id 0).count := by
  have htype : (new c i.id 0).type c = i.type c := by
    rw [type, type, new_id]
  have hcount := read_foldl_applyRecord c (new c i.id 0) (fun i => some i.count) Record.counts
    (i.records c) (fun j r _ => by rw [count_applyRecord, Option.or_some])
  rw [htype, Option.or_some] at hcount
  exact Option.some.inj hcount

/-- A text after a load: what fits its length, if that is anything. -/
def textAfterLoad (s : String) : Option AttributeValue :=
  if Cursor.shortened s = "" then none else some (.text (Cursor.shortened s))

/-- **What each attribute comes to** by a save and a load.  Where a type mixes charges with a liquid,
    the charges are read over what the liquid was. -/
def afterLoad : Attribute → Option AttributeValue
  | .description => textAfterLoad (i.attributes.textOf .description)
  | .text => textAfterLoad (i.attributes.textOf .text)
  | .writer => textAfterLoad (i.attributes.textOf .writer)
  | .writtenDate =>
    if i.attributes.writtenDate ≠ 0 then some (.number (i.attributes.numberOf .writtenDate)) else none
  | .actionId =>
    if (i.type c).moveable = true ∧ i.attributes.actionId ≠ 0 then
      some (.word (max i.attributes.actionId 100))
    else none
  | .duration =>
    if i.attributes.has .duration then some (.number (max i.attributes.duration 0))
    else if (i.type c).decayMillis ≠ 0 then some (.number (i.type c).decayMillis)
    else none
  | .decaying =>
    if i.attributes.decaying ≠ .idle then some (.number DecayState.pending.toNumber) else none
  | .charges =>
    if (i.type c).hasCharges = true ∧ (i.type c).stackable = false ∧ (i.type c).holdsLiquid = false then
      some (.word i.attributes.charges)
    else none
  | .fluidType =>
    if (i.type c).holdsLiquid = true then
      some (.word (if (i.type c).hasCharges then i.attributes.charges
        else i.attributes.fluidType % 256))
    else none
  | .uniqueId | .owner | .corpseOwner | .doorId => none

theorem textAfterLoad_or (s : String) :
    (if s = "" then none else textAfterLoad s) = textAfterLoad s := by
  by_cases hempty : s = ""
  · rw [if_pos hempty, hempty]
    rfl
  · rw [if_neg hempty]

/-- **An item's attributes after a load.** -/
theorem lookup_reread_eq (a : Attribute) :
    (i.reread c).attributes.lookup a = i.afterLoad c a := by
  have htype : c.typeOf i.id = i.type c := rfl
  have htext : ∀ kept : Attribute,
      (if i.attributes.textOf kept = "" then none
        else if Cursor.shortened (i.attributes.textOf kept) = "" then none
        else some (AttributeValue.text (Cursor.shortened (i.attributes.textOf kept))))
        = textAfterLoad (i.attributes.textOf kept) :=
    fun kept => textAfterLoad_or (i.attributes.textOf kept)
  rw [lookup_reread, records]
  simp only [Record.last_append, Record.last_when, lookup_new, htype]
  -- in each case the records that speak of other attributes drop out
  cases a with
  | description => simpa [afterLoad, ItemType.subtypeAttribute?_eq_some] using htext .description
  | text => simpa [afterLoad, ItemType.subtypeAttribute?_eq_some] using htext .text
  | writer => simpa [afterLoad, ItemType.subtypeAttribute?_eq_some] using htext .writer
  | writtenDate =>
    have hpositive : 0 < i.attributes.writtenDate ↔ i.attributes.writtenDate ≠ 0 :=
      UInt32.pos_iff_ne_zero
    have hword : i.attributes.writtenDate.toInt32 = i.attributes.numberOf .writtenDate :=
      Int32.toInt32_toUInt32 _
    simp [afterLoad, ItemType.subtypeAttribute?_eq_some, hpositive, hword]
  | duration =>
    by_cases hhas : i.attributes.has .duration = true <;>
      simp [afterLoad, ItemType.subtypeAttribute?_eq_some, hhas]
  | decaying =>
    have hnumber : i.attributes.decaying.toNumber.toUInt32.toUInt8 = 0
        ↔ i.attributes.decaying = .idle := by
      cases i.attributes.decaying <;> decide
    simp [afterLoad, ItemType.subtypeAttribute?_eq_some, hnumber]
  | charges =>
    by_cases hcharges : (i.type c).hasCharges = true <;>
      by_cases hliquid : (i.type c).holdsLiquid = true <;>
      by_cases hstack : (i.type c).stackable = true <;>
      simp [afterLoad, ItemType.subtypeAttribute?_eq_some, hcharges, hliquid, hstack]
  | fluidType =>
    by_cases hliquid : (i.type c).holdsLiquid = true
    · have hsubtype : i.subtype c = i.attributes.fluidType := if_pos hliquid
      by_cases hcharges : (i.type c).hasCharges = true <;>
        simp [afterLoad, ItemType.subtypeAttribute?_eq_some, hcharges, hliquid, hsubtype]
    · simp [afterLoad, ItemType.subtypeAttribute?_eq_some, hliquid]
  | _ => simp [afterLoad, ItemType.subtypeAttribute?_eq_some]

/-- What the count comes to by a save and a load.  Where a type mixes charges with a stack, the charges
    are read over what the count was. -/
def countAfterLoad : UInt8 :=
  if (i.type c).stackable = true ∧ (i.type c).holdsLiquid = false then
    Record.stored (if (i.type c).hasCharges then i.attributes.charges.toUInt8 else i.count)
  else 0

/-- **An item's count after a load.** -/
theorem count_reread_eq : (i.reread c).count = i.countAfterLoad c := by
  have htype : c.typeOf i.id = i.type c := rfl
  rw [count_reread, records, new_count, htype]
  simp only [Record.last_append, Record.last_when, Record.counts, Record.subtypeCount, ite_self,
    Option.none_or]
  unfold countAfterLoad ItemType.subtypeAttribute?
  by_cases hliquid : (i.type c).holdsLiquid = true
  · simp [hliquid]
  by_cases hstack : (i.type c).stackable = true
  · have hsubtype : i.subtype c = i.count.toUInt16 := by
      show (if (i.type c).holdsLiquid then _ else if (i.type c).stackable then _ else _) = _
      rw [if_neg hliquid, if_pos hstack]
    by_cases hcharges : (i.type c).hasCharges = true <;>
      simp [hliquid, hstack, hcharges, hsubtype]
  · by_cases hcharges : (i.type c).hasCharges = true <;> simp [hliquid, hstack, hcharges]

/-! ## §5. What is kept. -/

/-- **What a save and a load keep of an item,** for a type that does not mix charges with a count or a
    liquid. -/
structure Kept (c : Catalogue) (i j : Item) : Prop where
  id : j.id = i.id
  /-- A single item is stored with count zero, so no count is one; every other count stays. -/
  count : j.count
    = if (i.type c).stackable = true ∧ (i.type c).holdsLiquid = false then
        if i.count = 1 then 0 else i.count
      else 0
  texts : ∀ a : Attribute, a.isText = true →
    (Utf8.encode (i.attributes.textOf a)).length ≤ shortTextLimit →
    j.attributes.lookup a
      = if i.attributes.textOf a = "" then none else some (.text (i.attributes.textOf a))
  writtenDate : j.attributes.lookup .writtenDate
    = if i.attributes.writtenDate ≠ 0 then some (.number (i.attributes.numberOf .writtenDate))
      else none
  actionId : j.attributes.lookup .actionId
    = if (i.type c).moveable = true ∧ i.attributes.actionId ≠ 0 then
        some (.word (max i.attributes.actionId 100))
      else none
  duration : j.attributes.lookup .duration
    = if i.attributes.has .duration then some (.number (max i.attributes.duration 0))
      else if (i.type c).decayMillis ≠ 0 then some (.number (i.type c).decayMillis)
      else none
  decaying : j.attributes.lookup .decaying
    = if i.attributes.decaying ≠ .idle then some (.number DecayState.pending.toNumber) else none
  charges : j.attributes.lookup .charges
    = if (i.type c).hasCharges then some (.word i.attributes.charges) else none
  fluidType : j.attributes.lookup .fluidType
    = if (i.type c).holdsLiquid then some (.word (i.attributes.fluidType % 256)) else none
  lost : ∀ a ∈ [Attribute.uniqueId, .owner, .corpseOwner, .doorId], j.attributes.lookup a = none

/-- A text whose length can be said is not cut. -/
theorem shortened_of_short {s : String} (h : (Utf8.encode s).length ≤ shortTextLimit) :
    Cursor.shortened s = s := by
  rw [Cursor.shortened, List.take_of_length_le h, Utf8.decodeLossy_encode]

theorem reread_id : (i.reread c).id = i.id := by
  have hid : ∀ (rs : List Record) (j : Item), (rs.foldl (applyRecord c) j).id = j.id := by
    intro rs
    induction rs with
    | nil => intro j; rfl
    | cons r rs ih =>
      intro j
      rw [List.foldl_cons, ih, applyRecord_id]
  rw [reread, hid, new_id]

theorem kept_reread (h : (i.type c).mixesCharges = false) : Kept c i (i.reread c) where
  id := reread_id c i
  count := by
    rw [count_reread_eq, countAfterLoad]
    by_cases hcount : (i.type c).stackable = true ∧ (i.type c).holdsLiquid = false
    · have hcharges : ¬ (i.type c).hasCharges = true := by
        intro hcharges
        simp [ItemType.mixesCharges, hcharges, hcount.1] at h
      rw [if_pos hcount, if_pos hcount, if_neg hcharges, Record.stored_eq]
    · rw [if_neg hcount, if_neg hcount]
  texts a htext hshort := by
    have hkept : textAfterLoad (i.attributes.textOf a)
        = if i.attributes.textOf a = "" then none else some (.text (i.attributes.textOf a)) := by
      rw [textAfterLoad, shortened_of_short hshort]
    rw [lookup_reread_eq, ← hkept]
    cases a with
    | description | text | writer => rfl
    | _ => exact absurd htext Bool.false_ne_true
  writtenDate := lookup_reread_eq c i .writtenDate
  actionId := lookup_reread_eq c i .actionId
  duration := lookup_reread_eq c i .duration
  decaying := lookup_reread_eq c i .decaying
  charges := by
    rw [lookup_reread_eq, afterLoad]
    by_cases hcharges : (i.type c).hasCharges = true
    · have hpure : (i.type c).stackable = false ∧ (i.type c).holdsLiquid = false := by
        simpa [ItemType.mixesCharges, hcharges] using h
      rw [if_pos ⟨hcharges, hpure⟩, if_pos hcharges]
    · rw [if_neg hcharges, if_neg (fun hall => hcharges hall.1)]
  fluidType := by
    rw [lookup_reread_eq, afterLoad]
    by_cases hliquid : (i.type c).holdsLiquid = true
    · have hcharges : ¬ (i.type c).hasCharges = true := by
        intro hcharges
        simp [ItemType.mixesCharges, hcharges, hliquid] at h
      rw [if_neg hcharges]
    · rw [if_neg hliquid, if_neg hliquid]
  lost a ha := by
    rw [lookup_reread_eq]
    simp only [List.mem_cons, List.not_mem_nil, or_false] at ha
    obtain rfl | rfl | rfl | rfl := ha <;> rfl

/-- **An item saved and loaded.**  Its bytes are read whole, whatever stands behind them, and the item
    they give keeps what its type lets it keep. -/
theorem decode_encode_kept (h : (i.type c).mixesCharges = false) (position : Nat)
    (rest : List UInt8) :
    ∃ j, decode c ⟨position, i.encode c ++ rest⟩
        = .ok ⟨j, none, ⟨position + (i.encode c).length, rest⟩⟩
      ∧ Kept c i j :=
  ⟨i.reread c, decode_encode c i position rest, kept_reread c i h⟩

/-- A scroll with charges that decays, in front of another byte. -/
theorem decode_encode_kept_scroll :
    let c : Catalogue := ⟨({} : Std.ExtTreeMap UInt16 ItemType).insert 7
      { id := 7, charges := 3, decayTimeSecs := 60 }⟩
    let i : Item := ⟨7, 0, (Bag.empty.setText .text "né").setCharges 0xFDFE⟩
    (i.type c).mixesCharges = false
      ∧ ∃ j, decode c ⟨0, i.encode c ++ [1]⟩ = .ok ⟨j, none, ⟨0 + (i.encode c).length, [1]⟩⟩
        ∧ j.attributes.lookup .text = some (.text "né")
        ∧ j.attributes.lookup .charges = some (.word 0xFDFE)
        ∧ j.attributes.lookup .duration = some (.number 60000) := by
  intro c i
  have hpure : (i.type c).mixesCharges = false := by decide
  have hlength : (Utf8.encode (i.attributes.textOf .text)).length = 3 := by decide
  have hshort : (Utf8.encode (i.attributes.textOf .text)).length ≤ shortTextLimit := by
    rw [hlength]
    decide
  obtain ⟨j, hdecode, hkept⟩ := decode_encode_kept c i hpure 0 [1]
  exact ⟨hpure, j, hdecode, (hkept.texts .text rfl hshort).trans (by decide),
    hkept.charges.trans (by decide), hkept.duration.trans (by decide)⟩

/-! ## §6. Subtypes of new items. -/

/-- **The subtype after a load.** -/
theorem subtype_reread :
    (i.reread c).subtype c
      = if (i.type c).holdsLiquid then
          if (i.type c).hasCharges then i.attributes.charges else i.attributes.fluidType % 256
        else if (i.type c).stackable then (i.countAfterLoad c).toUInt16
        else if (i.type c).hasCharges then i.attributes.charges
        else 0 := by
  have htype : (i.reread c).type c = i.type c := by
    rw [type, type, reread_id]
  unfold subtype
  rw [htype, count_reread_eq]
  by_cases hliquid : (i.type c).holdsLiquid = true
  · have hheld := lookup_reread_eq c i .fluidType
    rw [afterLoad, if_pos hliquid] at hheld
    rw [if_pos hliquid, if_pos hliquid]
    exact Bag.word16_of_lookup rfl hheld
  by_cases hstack : (i.type c).stackable = true
  · simp only [if_neg hliquid, if_pos hstack]
  by_cases hcharges : (i.type c).hasCharges = true
  · have hheld := lookup_reread_eq c i .charges
    rw [afterLoad, if_pos ⟨hcharges, by simpa using hstack, by simpa using hliquid⟩] at hheld
    simp only [if_neg hliquid, if_neg hstack, if_pos hcharges]
    exact Bag.word16_of_lookup rfl hheld
  · have hcount : i.countAfterLoad c = 0 := if_neg (fun hall => hstack hall.1)
    simp only [if_neg hliquid, if_neg hstack, if_neg hcharges, hcount]
    rfl

/-- Where charges are mixed with a count or a liquid, a new item has none. -/
theorem charges_new_of_mixesCharges {id : UInt16} (amount : UInt16)
    (h : (c.typeOf id).mixesCharges = true) : (new c id amount).attributes.charges = 0 := by
  have hother : (c.typeOf id).subtypeAttribute? ≠ some .charges := by
    intro hheld
    rw [ItemType.subtypeAttribute?_eq_some] at hheld
    simp only [ItemType.mixesCharges, Bool.and_eq_true, Bool.or_eq_true] at h
    grind
  apply Bag.word16_of_lookup_none
  rw [lookup_new, if_neg (by decide), if_neg hother]

/-- The count of a new item is one that a load leaves as it is. -/
theorem stored_count_new (id amount : UInt16) :
    Record.stored (new c id amount).count = (new c id amount).count := by
  rw [new_count]
  split
  · rfl
  · rw [Record.stored_stored]

/-- Where charges are mixed with a count or a liquid, a load leaves a new item with nothing: the
    charges that it does not have are read over its subtype. -/
theorem reread_new_of_mixesCharges {id : UInt16} (amount : UInt16)
    (h : (c.typeOf id).mixesCharges = true) :
    ((new c id amount).reread c).subtype c = 0 ∧ ((new c id amount).reread c).count = 0 := by
  have htype : (new c id amount).type c = c.typeOf id := by rw [type, new_id]
  have hcharges := charges_new_of_mixesCharges c amount h
  obtain ⟨hcharged, hmixed⟩ : (c.typeOf id).hasCharges = true
      ∧ ((c.typeOf id).stackable = true ∨ (c.typeOf id).holdsLiquid = true) := by
    simpa [ItemType.mixesCharges] using h
  have hcount : (new c id amount).countAfterLoad c = 0 := by
    rw [countAfterLoad, htype, if_pos hcharged, hcharges]
    exact ite_self 0
  refine ⟨?_, by rw [count_reread_eq, hcount]⟩
  rw [subtype_reread, htype, hcount, if_pos hcharged, hcharges]
  by_cases hliquid : (c.typeOf id).holdsLiquid = true
  · rw [if_pos hliquid]
  · rw [if_neg hliquid, if_pos (hmixed.resolve_right hliquid)]
    rfl

/-- Where they are not mixed, a load leaves the subtype and the count of a new item as they are, as far
    as the subtype fits a byte. -/
theorem reread_new_of_not_mixesCharges {id amount : UInt16}
    (h : (c.typeOf id).mixesCharges = false) (hsmall : (new c id amount).subtype c ≤ 255) :
    ((new c id amount).reread c).subtype c = (new c id amount).subtype c
      ∧ ((new c id amount).reread c).count = (new c id amount).count := by
  have htype : (new c id amount).type c = c.typeOf id := by rw [type, new_id]
  have hcount : (new c id amount).countAfterLoad c = (new c id amount).count := by
    rw [countAfterLoad, htype]
    by_cases hstack : (c.typeOf id).stackable = true ∧ (c.typeOf id).holdsLiquid = false
    · have hcharged : ¬ (c.typeOf id).hasCharges = true := by
        intro hcharged
        simp [ItemType.mixesCharges, hcharged, hstack.1] at h
      rw [if_pos hstack, if_neg hcharged, stored_count_new]
    · have hnone : ((c.typeOf id).holdsLiquid || !(c.typeOf id).stackable) = true := by
        grind
      rw [if_neg hstack, new_count, if_pos hnone]
  refine ⟨?_, by rw [count_reread_eq, hcount]⟩
  rw [subtype_reread, htype, hcount]
  unfold subtype at hsmall ⊢
  rw [htype] at hsmall ⊢
  by_cases hliquid : (c.typeOf id).holdsLiquid = true
  · have hcharged : ¬ (c.typeOf id).hasCharges = true := by
      intro hcharged
      simp [ItemType.mixesCharges, hcharged, hliquid] at h
    simp only [if_pos hliquid] at hsmall
    have hfits : (new c id amount).attributes.fluidType < 256 := by grind
    simp only [if_pos hliquid, if_neg hcharged, UInt16.mod_eq_of_lt hfits]
  by_cases hstack : (c.typeOf id).stackable = true
  · simp only [if_neg hliquid, if_pos hstack]
  by_cases hcharged : (c.typeOf id).hasCharges = true
  · simp only [if_neg hliquid, if_neg hstack, if_pos hcharged]
  · have hnone : (new c id amount).count = 0 := by
      rw [new_count, if_pos (by simp [hstack])]
    simp only [if_neg hliquid, if_neg hstack, if_neg hcharged, hnone]
    rfl

/-- A new item whose subtype is zero has no count. -/
theorem new_count_of_subtype_eq_zero {id amount : UInt16} (h : (new c id amount).subtype c = 0) :
    (new c id amount).count = 0 := by
  have htype : (new c id amount).type c = c.typeOf id := by rw [type, new_id]
  by_cases hnone : ((c.typeOf id).holdsLiquid || !(c.typeOf id).stackable) = true
  · rw [new_count, if_pos hnone]
  · have hliquid : ¬ (c.typeOf id).holdsLiquid = true := by grind
    have hstack : (c.typeOf id).stackable = true := by grind
    unfold subtype at h
    simp only [htype, if_neg hliquid, if_pos hstack] at h
    rw [← UInt8.toUInt8_toUInt16 (new c id amount).count, h]
    rfl

/-- **When a new item keeps its subtype and count** by a save and a load: its type does not mix charges
    with a count or a liquid, or the subtype is zero. -/
theorem reread_new_subtype_iff (id amount : UInt16) (h : (new c id amount).subtype c ≤ 255) :
    (((new c id amount).reread c).subtype c = (new c id amount).subtype c
        ∧ ((new c id amount).reread c).count = (new c id amount).count)
      ↔ (c.typeOf id).mixesCharges = false ∨ (new c id amount).subtype c = 0 := by
  cases hmixed : (c.typeOf id).mixesCharges with
  | false => exact ⟨fun _ => .inl rfl, fun _ => reread_new_of_not_mixesCharges c hmixed h⟩
  | true =>
    obtain ⟨hsubtype, hcount⟩ := reread_new_of_mixesCharges c amount hmixed
    rw [hsubtype, hcount]
    constructor
    -- all that is left of such an item is zero, so nothing is kept but a zero
    · intro hkept
      exact .inr hkept.1.symm
    · rintro (hpure | hzero)
      · cases hpure
      · exact ⟨hzero.symm, (new_count_of_subtype_eq_zero c hzero).symm⟩

/-- **New items, saved and loaded.**  The bytes of a new item are always read; what they give has the
    subtype and count of the item exactly when its type does not mix charges with a count or a liquid,
    or the subtype is zero. -/
theorem decode_encode_new_iff (id amount : UInt16) (h : (new c id amount).subtype c ≤ 255)
    (position : Nat) (rest : List UInt8) :
    ∃ j, decode c ⟨position, (new c id amount).encode c ++ rest⟩
        = .ok ⟨j, none, ⟨position + ((new c id amount).encode c).length, rest⟩⟩
      ∧ ((j.subtype c = (new c id amount).subtype c ∧ j.count = (new c id amount).count)
        ↔ (c.typeOf id).mixesCharges = false ∨ (new c id amount).subtype c = 0) :=
  ⟨(new c id amount).reread c, decode_encode c _ position rest, reread_new_subtype_iff c id amount h⟩

/-- Stacked runes with charges of their type. -/
def runes : Catalogue :=
  ⟨({} : Std.ExtTreeMap UInt16 ItemType).insert 2260
    { id := 2260, name := "rune", stackable := true, charges := 5 }⟩

/-- A stack of runes is not kept. -/
theorem decode_encode_new_iff_runes :
    (new runes 2260 7).subtype runes ≤ 255
      ∧ ∃ j, decode runes ⟨0, (new runes 2260 7).encode runes ++ []⟩
          = .ok ⟨j, none, ⟨0 + ((new runes 2260 7).encode runes).length, []⟩⟩
        ∧ ¬ (j.subtype runes = 7 ∧ j.count = 7) := by
  have hsmall : (new runes 2260 7).subtype runes ≤ 255 := by decide
  obtain ⟨j, hdecode, hiff⟩ := decode_encode_new_iff runes 2260 7 hsmall 0 []
  have hlost : ¬ ((runes.typeOf 2260).mixesCharges = false ∨ (new runes 2260 7).subtype runes = 0) := by
    decide
  exact ⟨hsmall, j, hdecode, fun hkept => hlost (hiff.mp hkept)⟩

/-- **Seven runes are loaded as one:** the count seven is written and read, and then the charges, which
    a stack does not have, are read over it. -/
theorem seven_runes_load_as_one :
    (new runes 2260 7).subtype runes = 7 ∧ (new runes 2260 7).count = 7
      ∧ (new runes 2260 7).encode runes = [0xD4, 0x08, Tag.count, 7, Tag.charges, 0, 0, Tag.finish]
      ∧ ∃ j, decode runes ⟨0, (new runes 2260 7).encode runes⟩ = .ok ⟨j, none, ⟨8, []⟩⟩
        ∧ j.subtype runes = 0 ∧ j.count = 0 := by
  refine ⟨by decide, by decide, by decide, (new runes 2260 7).reread runes, ?_, by decide, by decide⟩
  have hdecode := decode_encode runes (new runes 2260 7) 0 []
  rw [List.append_nil] at hdecode
  exact hdecode

end Item

end Realm
