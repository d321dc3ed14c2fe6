/-
  Realm.Yaml.Layout — the tokens of a text.

  Outside brackets, structure is told by columns: a block begins where a mark or a key stands further
  to the right than the block around it, and ends where something stands further to the left.  That
  something is a key is known only at the colon after it, so places where a key may have begun are
  remembered.
-/
import Realm.Yaml.Scalar

namespace Realm.Yaml

/-! ## §1. Layouts. -/

/-- A place where a key may have begun: how many tokens came before it, where it is, and whether there
    must be a key. -/
structure KeyStart where
  tokens : Nat
  place : Input
  required : Bool

/-- A text on its way to tokens. -/
structure Layout where
  input : Input
  tokens : Array Token := #[]
  /-- The column of the innermost block. -/
  indent : Int := -1
  /-- The columns of the blocks around it, innermost first. -/
  around : List Int := []
  /-- Where a key may have begun, within the innermost brackets. -/
  start : Option KeyStart := none
  /-- The same for the brackets around them, and for what is outside brackets. -/
  starts : List (Option KeyStart) := []
  /-- Whether a key may begin here. -/
  keys : Bool := true

namespace Layout

/-- Whether this is within brackets. -/
def flow (l : Layout) : Bool := !l.starts.isEmpty

def emit (l : Layout) (t : Token) : Layout := { l with tokens := l.tokens.push t }

/-- Goes past some characters that are a token. -/
def take (l : Layout) (n : Nat) (t : Token) : Layout := { l.emit t with input := l.input.skip n }

/-! ## §2. Blocks. -/

/-- Begins a block in a column, unless there is one already; its first token goes in front of the token
    with a number. -/
def openBlock (l : Layout) (column at_ : Nat) (t : Token) : Layout :=
  if l.flow || (column : Int) ≤ l.indent then l
  else
    { l with
      indent := column
      around := l.indent :: l.around
      tokens := l.tokens.insertIdxIfInBounds at_ t }

/-- Ends blocks that begin to the right of a column. -/
def closeFrom (column : Int) (tokens : Array Token) : Int → List Int → Array Token × Int × List Int
  | indent, [] => (tokens, indent, [])
  | indent, outer :: around =>
    if column < indent then closeFrom column (tokens.push .blockEnd) outer around
    else (tokens, indent, outer :: around)

/-- Ends blocks, outside brackets. -/
def closeBlocks (l : Layout) (column : Int) : Layout :=
  if l.flow then l
  else
    let (tokens, indent, around) := closeFrom column l.tokens l.indent l.around
    { l with tokens, indent, around }

/-! ## §3. Keys. -/

/-- Bytes that a key may be long. -/
def keyLimit : Nat := 1024

/-- Whether what began somewhere can still be a key: it is on one line, and not too long. -/
def canEnd (i : Input) (k : KeyStart) : Bool :=
  i.line ≤ k.place.line && i.bytes ≤ k.place.bytes + keyLimit

/-- Forgets a place where a key may have begun, unless there must be one. -/
def forget? (k : Option KeyStart) : Option (Option KeyStart) :=
  if k.any (·.required) then none else some none

/-- Forgets the places of keys that cannot end any more. -/
def dropStale? (l : Layout) : Option Layout := do
  let keep (k : Option KeyStart) : Option (Option KeyStart) :=
    if k.all (canEnd l.input) then some k else forget? k
  return { l with start := ← keep l.start, starts := ← l.starts.mapM keep }

/-- Forgets the place where a key may have begun. -/
def noKey? (l : Layout) : Option Layout := do return { l with start := ← forget? l.start }

/-- Remembers that a key may begin here.  Outside brackets there must be one in the column of the
    block. -/
def mayKey? (l : Layout) : Option Layout := do
  if l.keys then
    let required := !l.flow && l.indent == l.input.column
    return { (← l.noKey?) with start := some ⟨l.tokens.size, l.input, required⟩ }
  else return l

/-! ## §4. Tokens that shape the text. -/

/-- Ends everything outside brackets: before a line for the reader, the mark of a document, and the end
    of the text. -/
def reset? (l : Layout) : Option Layout := do
  return { (← (l.closeBlocks (-1)).noKey?) with keys := false }

/-- A line for the reader. -/
def directive? (l : Layout) : Option Layout := do
  let l ← l.reset?
  let (token, input) ← Token.directive? l.input
  return { l.emit token with input }

/-- The mark of a document. -/
def fence? (l : Layout) (t : Token) : Option Layout := do return (← l.reset?).take 3 t

/-- An opening bracket. -/
def enter? (l : Layout) (t : Token) : Option Layout := do
  let l ← l.mayKey?
  return { l.take 1 t with start := none, starts := l.start :: l.starts, keys := true }

/-- A closing bracket. -/
def leave? (l : Layout) (t : Token) : Option Layout := do
  let l ← l.noKey?
  let l := match l.starts with
    | [] => l
    | k :: starts => { l with start := k, starts }
  return { l.take 1 t with keys := false }

def comma? (l : Layout) : Option Layout := do return { (← l.noKey?).take 1 .comma with keys := true }

/-- Begins a block here if need be.  Outside brackets this must be where a key may begin. -/
def opening? (l : Layout) (t : Token) : Option Layout :=
  if l.flow then some l
  else if l.keys then some (l.openBlock l.input.column l.tokens.size t)
  else none

/-- The dash of an element. -/
def dash? (l : Layout) : Option Layout := do
  return { (← (← l.opening? .blockList).noKey?).take 1 .dash with keys := true }

/-- The question mark of a key. -/
def key? (l : Layout) : Option Layout := do
  return { (← (← l.opening? .blockRecord).noKey?).take 1 .key with keys := !l.flow }

/-- **The colon of a value.**  Now it is known where its key began, if it is not one that stands on its
    own. -/
def value? (l : Layout) : Option Layout := do
  match l.start with
  | some k =>
    let l := { l with tokens := l.tokens.insertIdxIfInBounds k.tokens .key, start := none }
    return { (l.openBlock k.place.column k.tokens .blockRecord).take 1 .value with keys := false }
  | none => return { (← l.opening? .blockRecord).take 1 .value with keys := !l.flow }

/-! ## §5. Tokens that say something. -/

/-- A token with which a key may begin. -/
def content? (l : Layout) (read : Input → Option (Token × Input)) : Option Layout := do
  let l ← l.mayKey?
  let (token, input) ← read l.input
  return { l.emit token with input, keys := false }

def plain? (l : Layout) (fuel : Nat) : Option Layout := do
  let l ← l.mayKey?
  let (text, ended, input) ← Yaml.plain? l.flow l.indent fuel l.input
  return { l.emit (.scalar .plain text) with input, keys := ended }

def block? (l : Layout) (style : Style) : Option Layout := do
  let l ← l.noKey?
  let (text, input) ← Yaml.block? l.indent l.input
  return { l.emit (.scalar style text) with input, keys := true }

/-- The token that starts with a character before another one.  The rest of the text has fewer characters
    than there are steps. -/
def token? (l : Layout) (fuel : Nat) (c : Char) (next : Option Char) : Option Layout :=
  let named (t : String → Token) (i : Input) : Option (Token × Input) :=
    (Token.word? i).map fun (name, after) => (t name, after)
  let quoted (style : Style) (i : Input) : Option (Token × Input) :=
    (Yaml.quoted? (style == .double) fuel i).map fun (text, after) => (.scalar style text, after)
  if l.input.column == 0 && c == '%' then l.directive?
  else if l.input.fence? == some '-' then l.fence? .documentStart
  else if l.input.fence? == some '.' then l.fence? .documentEnd
  else if c == '[' then l.enter? .openList
  else if c == '\x7b' then l.enter? .openRecord
  else if c == ']' then l.leave? .closeList
  else if c == '\x7d' then l.leave? .closeRecord
  else if c == ',' then l.comma?
  else if c == '-' && isGap next then l.dash?
  else if c == '?' && (l.flow || isGap next) then l.key?
  else if c == ':' && (l.flow || isGap next) then l.value?
  else if c == '*' then l.content? (named .reference)
  else if c == '&' then l.content? (named .anchor)
  else if c == '!' then l.content? (Token.tag? l.flow)
  else if c == '|' && !l.flow then l.block? .literal
  else if c == '>' && !l.flow then l.block? .folded
  else if c == '\'' then l.content? (quoted .single)
  else if c == '"' then l.content? (quoted .double)
  else if startsPlain l.flow c next then l.plain? fuel
  else none

/-- One step: to the next token, and past it.  The answer says whether the text has ended. -/
def next? (l : Layout) (fuel : Nat) : Option (Layout × Bool) := do
  let (keys, input) := l.input.toToken l.flow l.keys
  let l ← dropStale? { l with keys, input }
  match l.input.rest with
  | [] => return (← l.reset?, true)
  | c :: rest => return (← (l.closeBlocks l.input.column).token? fuel c rest.head?, false)

/-- All steps to the end of the text; each one goes past a character at least. -/
def run? : Nat → Layout → Option Layout
  | 0, _ => none
  | fuel + 1, l => do
    let (l, done) ← l.next? (fuel + 1)
    if done then return l else run? fuel l

end Layout

/-- **The tokens of a text.** -/
def Token.ofText? (text : String) : Option (List Token) :=
  let cs := text.toList
  if cs.all isPrintable then
    let rest := unifyLines cs
    (Layout.run? (rest.length + 2) { input := { rest } }).map fun l => l.tokens.toList
  else none

end Realm.Yaml
