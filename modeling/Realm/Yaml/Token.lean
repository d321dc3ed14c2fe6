/-
  Realm.Yaml.Token — what a text is made of, before it is known what belongs together.
-/
import Realm.Yaml.Input

namespace Realm.Yaml

/-! ## §1. Tags. -/

/-- A tag as bytes: those that start with an exclamation mark are a text's own. -/
abbrev Tag : Type := List UInt8

namespace Tag

/-- The tag of a type that every text knows. -/
def core (name : String) : Tag := ("tag:yaml.org,2002:" ++ name).toUTF8.toList

/-- Whether a tag is a text's own. -/
def isOwn (t : Tag) : Bool := t.head? == some 0x21

/-- The name that a tag of a text's own says. -/
def name? (t : Tag) : Option String :=
  if t.isOwn then String.fromUTF8? ⟨t.tail.toArray⟩ else none

end Tag

/-! ## §2. Tokens. -/

/-- How a text is written. -/
inductive Style
  | plain
  | single
  | double
  | literal
  | folded
deriving Repr, DecidableEq

inductive Token
  /-- The version of the language that is used. -/
  | version (major minor : Nat)
  /-- A short form for the start of tags. -/
  | handle (name : String) (start : Tag)
  | documentStart
  | documentEnd
  /-- A list or a record begins that is told by columns; both end in the same way. -/
  | blockList
  | blockRecord
  | blockEnd
  | openList
  | closeList
  | openRecord
  | closeRecord
  | comma
  | dash
  | key
  | value
  | reference (name : String)
  | anchor (name : String)
  /-- A tag: a short form and what follows it; without a short form it is whole. -/
  | tag (handle : String) (suffix : Tag)
  | scalar (style : Style) (text : String)
deriving Repr, DecidableEq

/-! ## §3. Names. -/

namespace Token

/-- **A name after its mark.**  A blank must end it, or one of some marks. -/
def word? (i : Input) : Option (String × Input) :=
  let i := i.advance
  let name := i.rest.takeWhile isWord
  let after := i.skip name.length
  if !name.isEmpty && (isGap after.rest.head? || after.rest.head?.any "?:,]\x7d%@\x60".toList.contains)
  then some (String.ofList name, after) else none

/-! ## §4. Tags as they are written. -/

/-- Whether a character of a tag stands for itself; some marks do so only where nothing else could be
    meant. -/
def isTagChar (whole : Bool) (c : Char) : Bool :=
  isWord c || ";/?:@&=+$.!~*'()".toList.contains c || (whole && ",[]".toList.contains c)

def hex? (c : Char) : Option Nat :=
  if c.isDigit then some (c.toNat - '0'.toNat)
  else if 'a' ≤ c ∧ c ≤ 'f' then some (c.toNat - 'a'.toNat + 10)
  else if 'A' ≤ c ∧ c ≤ 'F' then some (c.toNat - 'A'.toNat + 10)
  else none

/-- How many bytes follow the first byte of a character. -/
def followers? (b : Nat) : Option Nat :=
  if b < 0x80 then some 0
  else if 0xC0 ≤ b ∧ b < 0xE0 then some 1
  else if 0xE0 ≤ b ∧ b < 0xF0 then some 2
  else if 0xF0 ≤ b ∧ b < 0xF8 then some 3
  else none

/-- How many bytes of a character are due after one more of its bytes. -/
def dueAfter? (due b : Nat) : Option Nat :=
  if due = 0 then followers? b else if 0x80 ≤ b ∧ b < 0xC0 then some (due - 1) else none

/-- The characters of a tag, and what comes after them.  A percent sign and two digits stand for a
    byte; bytes written so make up whole characters. -/
def tagText? (whole : Bool) : Nat → List Char → Option (Tag × List Char)
  | due, '%' :: a :: b :: rest => do
    let byte := (← hex? a) * 16 + (← hex? b)
    let (more, after) ← tagText? whole (← dueAfter? due byte) rest
    return (UInt8.ofNat byte :: more, after)
  | 0, c :: rest =>
    if c == '%' then none
    else if isTagChar whole c then
      (tagText? whole 0 rest).map fun (more, after) => (UInt8.ofNat c.toNat :: more, after)
    else some ([], c :: rest)
  | 0, [] => some ([], [])
  | _ + 1, _ => none

/-- Reads the characters of a tag, one at least if that is asked for.  A byte of zero ends a tag
    early. -/
def tagBytes? (whole nonempty : Bool) (i : Input) : Option (Tag × Input) := do
  let (text, after) ← tagText? whole 0 i.rest
  if nonempty && after.length = i.rest.length then none
  else return (text.takeWhile (· != 0), i.skip (i.rest.length - after.length))

/-- A short form from its first mark on: letters, and a second mark if it is there. -/
def handleText (i : Input) : List Char :=
  let letters := (i.rest.drop 1).takeWhile isWord
  let name := '!' :: letters
  if i.rest[name.length]? == some '!' then name ++ ['!'] else name

/-- Whether a text is a short form that is closed by a second mark. -/
def isClosed (handle : List Char) : Bool := handle.length > 1 && handle.getLast? == some '!'

/-- A tag without a closed short form: what follows its first mark; alone the mark is a whole tag. -/
def ownTag (suffix : Tag) : Token :=
  if suffix.isEmpty then .tag "" [0x21] else .tag "!" suffix

/-- **A tag,** from its mark on: whole in angle brackets, after a short form, or a text's own. -/
def tag? (flow : Bool) (i : Input) : Option (Token × Input) := do
  let handle := handleText i
  let (token, after) ←
    if i.rest[1]? == some '<' then do
      let (suffix, after) ← tagBytes? true true (i.skip 2)
      if after.rest.head? == some '>' then pure (.tag "" suffix, after.advance) else none
    else if isClosed handle then do
      let (suffix, after) ← tagBytes? false true (i.skip handle.length)
      pure (.tag (String.ofList handle) suffix, after)
    else do
      let (suffix, after) ← tagBytes? false false i.advance
      pure (ownTag suffix, after)
  if isGap after.rest.head? || (flow && after.rest.head? == some ',') then return (token, after)
  else none

/-! ## §5. Lines for the reader. -/

/-- Most digits in the number of a version. -/
def versionDigits : Nat := 9

/-- A number of a version. -/
def number? (i : Input) : Option (Nat × Input) :=
  let digits := i.rest.takeWhile Char.isDigit
  if digits.isEmpty || versionDigits < digits.length then none
  else some (digits.foldl (fun n c => n * 10 + (c.toNat - '0'.toNat)) 0, i.skip digits.length)

/-- A version: two numbers with a point between them. -/
def version? (i : Input) : Option (Token × Input) := do
  let (major, i) ← number? i.skipBlanks
  if i.rest.head? == some '.' then
    let (minor, i) ← number? i.advance
    return (.version major minor, i)
  else none

/-- A short form, and the start of tags that it stands for. -/
def handle? (i : Input) : Option (Token × Input) := do
  let i := i.skipBlanks
  let name := handleText i
  let after := i.skip name.length
  if i.rest.head? == some '!' && (isClosed name || name == ['!'])
      && after.rest.head?.any isBlank then
    let (start, after) ← tagBytes? true true after.skipBlanks
    if isGap after.rest.head? then return (.handle (String.ofList name) start, after) else none
  else none

/-- **A line for the reader,** from its percent sign on. -/
def directive? (i : Input) : Option (Token × Input) := do
  let i := i.advance
  let name := i.rest.takeWhile isWord
  let after := i.skip name.length
  if isGap after.rest.head? then
    let (token, after) ←
      if name == "YAML".toList then version? after
      else if name == "TAG".toList then handle? after
      else none
    return (token, ← after.endLine?)
  else none

end Token

end Realm.Yaml
