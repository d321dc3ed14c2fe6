/-
  Realm.Authored.Combats — combats as authors write them, and the library of them by name.

  What is written is read as a whole first; building the combats, one after the other, is what finds a
  setting that means nothing or an area that cannot be built.
-/
import Realm.Combat.Basic
import Realm.Footprint.Cache
import Realm.Yaml.Decoder

namespace Realm.Authored

open Yaml (Node Decoding Decoder)

/-! ## §1. What authors write. -/

/-- The value of a setting. -/
inductive ParamValue
  | flag (b : Bool)
  | number (n : UInt32)
  | name (s : String)
deriving Repr, DecidableEq

/-- A grid of tokens. -/
structure Grid where
  rows : Nat
  tokens : List UInt8
deriving Repr, DecidableEq

/-- An area. -/
inductive AreaText
  | grid (g : Grid)
  | beam (length spread : UInt32)
  | radius (r : UInt8)
deriving Repr, DecidableEq

/-- A combat.  Its settings stand in the order of their names. -/
structure Definition where
  name : String
  params : List (String × ParamValue) := []
  formula : Option Formula := none
  area : Option AreaText := none
  diagonals : Option Grid := none
  conditions : List Condition := []

/-! ## §2. Reading it. -/

/-- The whole numbers that are told from other texts. -/
def isWhole (i : Int) : Bool :=
  -170141183460469231731687303715884105728 ≤ i && i < 340282366920938463463374607431768211456

/-- A number of one word. -/
def wordOf? (i : Int) : Option ParamValue :=
  if 0 ≤ i ∧ i < UInt32.size then some (.number (UInt32.ofNat i.toNat)) else none

/-- Whether a text is a fraction: digits after a leading zero are none. -/
def isFraction (cs : List Char) : Bool :=
  let unsigned := if cs.head?.any fun c => c == '-' || c == '+' then cs.tail else cs
  (Yaml.Number.float? cs).isSome && !Yaml.Number.isPadded unsigned

/-- A setting's value written plainly: a switch, a number of one word, or a text that is no other
    number and does not stand for nothing. -/
def plainValue? (s : String) : Option ParamValue :=
  if s == "" || Decoder.isNullWord s then none
  else
    match Decoder.switch? s, (Yaml.Number.int? s.toList).filter isWhole with
    | some b, _ => some (.flag b)
    | none, some i => wordOf? i
    | none, none => if isFraction s.toList then none else some (.name s)

/-- **A setting's value.**  A core tag says what it is, and no name may stand in a tag of the text's
    own. -/
def paramValueOf (n : Node Nat) : Decoding ParamValue := do
  match ← Decoder.target n with
  | .scalar p style s =>
    match p.tag with
    | none => if style == .plain then plainValue? s else return .name s
    | some t =>
      if t.name?.isSome then failure
      else if t == Yaml.Tag.core "bool" then (Decoder.switch? s).map .flag
      else if t == Yaml.Tag.core "int" then (Yaml.Number.int? s.toList).bind wordOf?
      else if t == Yaml.Tag.core "float" || t == Yaml.Tag.core "null" then failure
      else if t.isOwn && style == .plain then plainValue? s
      else return .name s
  | _ => failure

/-- Puts a setting in its place by name, over one of the same name. -/
def putParam (params : List (String × ParamValue)) (p : String × ParamValue) :
    List (String × ParamValue) :=
  params.takeWhile (·.1 < p.1) ++ p :: params.dropWhile (·.1 ≤ p.1)

/-- Settings by name. -/
def paramsOf (n : Node Nat) : Decoding (List (String × ParamValue)) := do
  let values ← (← Decoder.fields n).mapM fun (k, v) => return (k, ← paramValueOf v)
  return values.foldl putParam []

def formulaOf (n : Node Nat) : Decoding Formula := do
  let fields ← Decoder.exactly ["type", "mina", "minb", "maxa", "maxb"] n
  pure {
    kind := ← Decoder.field fields "type" (Decoder.choice FormulaKind.ofName?)
    minA := ← Decoder.fieldOr fields "mina" Decoder.float 0
    minB := ← Decoder.fieldOr fields "minb" Decoder.float 0
    maxA := ← Decoder.fieldOr fields "maxa" Decoder.float 0
    maxB := ← Decoder.fieldOr fields "maxb" Decoder.float 0 }

def gridOf (n : Node Nat) : Decoding Grid := do
  let fields ← Decoder.known ["rows", "tokens"] n
  pure {
    rows := ← Decoder.field fields "rows" (Decoder.nat UInt64.size)
    tokens := ← Decoder.field fields "tokens" (Decoder.list Decoder.uint8) }

/-- **An area** is a record of one field, named for its shape, and has no tag of the text's own. -/
def areaOf (n : Node Nat) : Decoding AreaText := do
  match ← Decoder.target n with
  | .record p [(key, n)] =>
    if (p.tag.bind Yaml.Tag.name?).isSome then failure
    match ← Decoder.text key with
    | "grid" => return .grid (← gridOf n)
    | "beam" =>
      let fields ← Decoder.known ["length", "spread"] n
      return .beam (← Decoder.field fields "length" Decoder.uint32)
        (← Decoder.fieldOr fields "spread" Decoder.uint32 0)
    | "radius" => return .radius (← Decoder.uint8 n)
    | _ => failure
  | _ => failure

def conditionOf (n : Node Nat) : Decoding Condition := do
  let fields ← Decoder.known ["kind", "ticks", "tick_damage", "interval_ms"] n
  let kind ← Decoder.field fields "kind" (Decoder.choice ConditionKind.ofName?)
  let c := Condition.new kind (← Decoder.field fields "ticks" Decoder.int32)
  pure { c with
    tickDamage := ← Decoder.fieldOr fields "tick_damage" Decoder.int32 c.tickDamage
    interval := ← Decoder.fieldOr fields "interval_ms" Decoder.uint32 c.interval }

def definitionOf (n : Node Nat) : Decoding Definition := do
  let fields ← Decoder.exactly ["name", "params", "formula", "area", "ext_area", "conditions"] n
  pure {
    name := ← Decoder.field fields "name" Decoder.text
    params := ← Decoder.fieldOr fields "params" paramsOf []
    formula := ← Decoder.fieldOr fields "formula" (Decoder.optional formulaOf) none
    area := ← Decoder.fieldOr fields "area" (Decoder.optional areaOf) none
    diagonals := ← Decoder.fieldOr fields "ext_area" (Decoder.optional gridOf) none
    conditions := ← Decoder.fieldOr fields "conditions" (Decoder.list conditionOf) [] }

/-- The combats of a whole text. -/
def definitionsOf (n : Node Nat) : Decoding (List Definition) := do
  let fields ← Decoder.known ["combats"] n
  Decoder.fieldOr fields "combats" (Decoder.list definitionOf) []

/-! ## §3. Building it. -/

/-- Why a combat cannot be built. -/
inductive CombatFault
  | unknownParam (key : String)
  | unknownName (name : String) (known : List String)
  | notANumber (p : Param) (name : String)
  | invalidValue (n : UInt32) (key : String)
  | diagonalsAlone
  | diagonalsWithoutGrid
  | area (f : Footprint.Fault)
deriving Repr, DecidableEq

def CombatFault.message : CombatFault → String
  | unknownParam key => s!"unknown param {key}"
  | unknownName name known =>
    let names := ", ".intercalate (known.map fun k => s!"\x60{k}\x60")
    s!"unknown name {name}: unknown variant \x60{name}\x60, expected one of {names}"
  | notANumber p name => s!"{p.title} takes a number, got {name}"
  | invalidValue n key => s!"invalid value {n} for {key}"
  | diagonalsAlone => "ext_area without area"
  | diagonalsWithoutGrid => "ext_area only applies to grid areas"
  | area f => s!"area: {f.message}"

/-- The number that a value stands for; kinds may be given by name. -/
def ParamValue.resolve (p : Param) : ParamValue → Except CombatFault UInt32
  | flag b => .ok (if b then 1 else 0)
  | number n => .ok n
  | name s =>
    let named (mask : Option UInt32) (known : List String) : Except CombatFault UInt32 :=
      match mask with
      | some m => .ok m
      | none => .error (.unknownName s known)
    match p with
    | .damageType =>
      named ((DamageType.ofName? s).map DamageType.mask) (DamageType.all.map DamageType.name)
    | .dispel =>
      named ((ConditionKind.ofName? s).map ConditionKind.mask)
        (ConditionKind.all.map ConditionKind.name)
    | _ => .error (.notANumber p s)

/-- One setting more. -/
def setParam (s : Settings) (param : String × ParamValue) : Except CombatFault Settings := do
  match Param.ofName? param.1 with
  | none => .error (.unknownParam param.1)
  | some p =>
    let n ← param.2.resolve p
    match s.set? p n with
    | some s => .ok s
    | none => .error (.invalidValue n param.1)

namespace Definition

/-- The shape of a combat's area, if it has one. -/
def shape (d : Definition) : Except CombatFault (Option Shape) :=
  match d.area, d.diagonals with
  | none, none => .ok none
  | none, some _ => .error .diagonalsAlone
  | some (.grid g), none => .ok (some (.grid g.rows g.tokens 0 []))
  | some (.grid g), some e => .ok (some (.grid g.rows g.tokens e.rows e.tokens))
  | some (.beam length spread), none => .ok (some (.beam length.toNat spread.toNat))
  | some (.radius r), none => .ok (some (.radius r))
  | some _, some _ => .error .diagonalsWithoutGrid

/-- A combat but for its area. -/
def base (d : Definition) : Except CombatFault Combat := do
  let settings ← d.params.foldlM setParam {}
  pure {
    settings := { settings with conditions := d.conditions }
    formula := d.formula.getD {} }

/-- **Builds a combat;** its area comes from a cache. -/
def build (d : Definition) (cache : AreaCache) : Except CombatFault Combat × AreaCache :=
  let plan : Except CombatFault (Combat × Option Shape) := do pure (← d.base, ← d.shape)
  match plan with
  | .error e => (.error e, cache)
  | .ok (c, none) => (.ok c, cache)
  | .ok (c, some s) =>
    match cache.request s with
    | (.error e, cache) => (.error (.area e), cache)
    | (.ok a, cache) => (.ok { c with area := some a.area }, cache)

end Definition

/-! ## §4. The library. -/

/-- Combats by name. -/
abbrev Library : Type := Std.ExtTreeMap String Combat

/-- Why a library cannot be had from a text. -/
inductive LibraryFault
  | unreadable
  | repeated (name : String)
  | combat (name : String) (f : CombatFault)
deriving Repr, DecidableEq

def LibraryFault.message : LibraryFault → String
  | unreadable => "combat definitions parse failed"
  | repeated name => s!"duplicate combat {name}"
  | combat name f => s!"combat {name}: {f.message}"

/-- Builds combats into a library, as far as they can be built. -/
def buildAll : List Definition → Library → AreaCache → Except LibraryFault Library × AreaCache
  | [], library, cache => (.ok library, cache)
  | d :: rest, library, cache =>
    if library.contains d.name then (.error (.repeated d.name), cache)
    else
      match d.build cache with
      | (.error f, cache) => (.error (.combat d.name f), cache)
      | (.ok c, cache) => buildAll rest (library.insert d.name c) cache

/-- **Reads a library.**  The areas built on the way stay in the cache, also when it fails. -/
def combats (text : String) (cache : AreaCache) : Except LibraryFault Library × AreaCache :=
  match Yaml.read? text definitionsOf with
  | some definitions => buildAll definitions {} cache
  | none => (.error .unreadable, cache)

end Realm.Authored
