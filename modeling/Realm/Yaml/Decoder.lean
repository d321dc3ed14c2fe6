/-
  Realm.Yaml.Decoder — the values that are read from the nodes of a document.

  Reading follows references, and only so many of them: a short text could else stand for a very long
  one.  What is ignored is not followed.
-/
import Realm.Yaml.Document

namespace Realm.Yaml

/-- Reads a value in a document, and counts the references that are followed. -/
abbrev Decoding (α : Type) : Type := ReaderT Document (StateT Nat Option) α

/-- A way to read a value from a node. -/
abbrev Decoder (α : Type) : Type := Node Nat → Decoding α

/-- Reads the whole of a document. -/
def Document.decode? {α : Type} (d : Document) (f : Decoder α) : Option α := do
  let (a, followed) ← ((f d.root).run d).run 0
  if followed ≤ d.limit then return a else none

/-- **Reads a text.** -/
def read? {α : Type} (text : String) (f : Decoder α) : Option α :=
  (Document.ofText? text).bind fun d => d.decode? f

namespace Decoder

/-- The node that a reference means; another node means itself. -/
def target : Decoder (Node Nat)
  | .reference n => do
    modify (· + 1)
    (← read).node? n
  | n => return n

/-! ## §1. Scalars. -/

/-- A text, however it is written. -/
def text : Decoder String := fun n => do
  match ← target n with
  | .scalar _ _ s => return s
  | _ => failure

/-- Whether a text is one of the words for nothing. -/
def isNullWord (s : String) : Bool := ["~", "null", "Null", "NULL"].contains s

/-- The switch that a text stands for. -/
def switch? (s : String) : Option Bool :=
  if ["true", "True", "TRUE"].contains s then some true
  else if ["false", "False", "FALSE"].contains s then some false
  else none

/-- A value of a core type: it is written plainly, or as a literal block with the tag of the type. -/
def core {α : Type} (type : String) (f : String → Option α) : Decoder α := fun n => do
  match ← target n with
  | .scalar p style s =>
    if style == .plain || (style == .literal && p.tag == some (Tag.core type)) then f s else failure
  | _ => failure

def bool : Decoder Bool := core "bool" switch?

/-- A number from zero up to below a limit. -/
def nat (limit : Nat) : Decoder Nat :=
  core "int" fun s => (Number.nat? s.toList).filter (· < limit)

def uint8 : Decoder UInt8 := fun n => return UInt8.ofNat (← nat UInt8.size n)

def uint16 : Decoder UInt16 := fun n => return UInt16.ofNat (← nat UInt16.size n)

def uint32 : Decoder UInt32 := fun n => return UInt32.ofNat (← nat UInt32.size n)

/-- A signed word. -/
def int32 : Decoder Int32 :=
  core "int" fun s =>
    ((Number.int? s.toList).filter fun i =>
      Int32.minValue.toInt ≤ i && i ≤ Int32.maxValue.toInt).map Int32.ofInt

def float : Decoder Float := core "float" fun s => Number.float? s.toList

/-- **One of some names,** as a text, or as a tag of the text's own with nothing after it. -/
def choice {α : Type} (f : String → Option α) : Decoder α := fun n => do
  match ← target n with
  | .scalar p style s =>
    match p.tag.bind Tag.name? with
    | some name => if style == .plain && (s == "" || isNullWord s) then f name else failure
    | none => f s
  | _ => failure

/-- A value that may be written as nothing. -/
def optional {α : Type} (f : Decoder α) : Decoder (Option α) := fun n => do
  let n ← target n
  match n with
  | .scalar { tag := some tag, .. } .plain s =>
    if tag == Tag.core "null" then
      if isNullWord s then return none else failure
    else return some (← f n)
  | .scalar _ .plain s => if s == "" || isNullWord s then return none else return some (← f n)
  | _ => return some (← f n)

/-! ## §2. Lists and fields. -/

/-- The elements of a list; nothing written is an empty one. -/
def list {α : Type} (f : Decoder α) : Decoder (List α) := fun n => do
  match ← target n with
  | .list _ items => items.mapM f
  | .scalar _ .plain "" => return []
  | _ => failure

/-- Fields with their names. -/
abbrev Fields : Type := List (String × Node Nat)

/-- The fields of a record by the texts of their keys; nothing written is an empty one. -/
def fields : Decoder Fields := fun n => do
  match ← target n with
  | .record _ fs => fs.mapM fun (k, v) => return (← text k, v)
  | .scalar _ .plain "" => return []
  | _ => failure

/-- **Known fields.**  None of them may be written twice; other fields do not count. -/
def known (names : List String) : Decoder Fields := fun n => do
  let fs ← fields n
  let keys := fs.map Prod.fst
  if names.all fun k => keys.count k ≤ 1 then return fs else failure

/-- Known fields and no others. -/
def exactly (names : List String) : Decoder Fields := fun n => do
  let fs ← known names n
  if fs.all fun f => names.contains f.1 then return fs else failure

/-- A field, or what holds without it. -/
def fieldOr {α : Type} (fs : Fields) (name : String) (f : Decoder α) (d : α) : Decoding α :=
  match fs.lookup name with
  | some n => f n
  | none => return d

/-- A field that must be there. -/
def field {α : Type} (fs : Fields) (name : String) (f : Decoder α) : Decoding α :=
  match fs.lookup name with
  | some n => f n
  | none => failure

end Decoder

end Realm.Yaml
