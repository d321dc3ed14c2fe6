/-
  Realm.Yaml.Input — a text on its way through the reader: what is left of it, and where that stands.

  Lines end in one character, a line feed or one of the two separators of Unicode; other ways to end a
  line are made into line feeds first.
-/
namespace Realm.Yaml

/-! ## §1. Classes of characters. -/

/-- Whether a line ends here. -/
def isBreak (c : Char) : Bool := c == '\n' || c == '\u2028' || c == '\u2029'

def isBlank (c : Char) : Bool := c == ' ' || c == '\t'

/-- Whether a token ends before what comes next: a blank, the end of the line, or that of the text. -/
def isGap (c : Option Char) : Bool := c.all fun c => isBlank c || isBreak c

/-- Names are letters, digits, dashes and underscores. -/
def isWord (c : Char) : Bool := c.isAlphanum || c == '-' || c == '_'

/-- Whether a character may stand in a text. -/
def isPrintable (c : Char) : Bool :=
  let n := c.toNat
  n == 0x9 || n == 0xA || n == 0xD || n == 0x85 || (0x20 ≤ n && n ≤ 0x7E)
    || (0xA0 ≤ n && n ≤ 0xFFFD) || 0x10000 ≤ n

/-- Marks that end a plain text within brackets. -/
def brackets : List Char := ",[]\x7b\x7d".toList

/-- Marks with which no plain text starts. -/
def indicators : List Char := "-?:,[]\x7b\x7d#&*!|>'\"%@\x60".toList

/-- A text in which line feeds stand for other ways to end a line. -/
def unifyLines : List Char → List Char
  | [] => []
  | '\r' :: '\n' :: rest => '\n' :: unifyLines rest
  | c :: rest => (if c == '\r' || c == '\u0085' then '\n' else c) :: unifyLines rest

/-! ## §2. Where the reader is. -/

/-- What is left of a text; how many bytes came before it, and on which line and in which column it
    stands. -/
structure Input where
  rest : List Char
  bytes : Nat := 0
  line : Nat := 0
  column : Nat := 0
deriving Repr, DecidableEq

namespace Input

/-- Goes past one character. -/
def advance (i : Input) : Input :=
  match i.rest with
  | [] => i
  | c :: rest =>
    if isBreak c then { rest, bytes := i.bytes + c.utf8Size, line := i.line + 1, column := 0 }
    else { rest, bytes := i.bytes + c.utf8Size, line := i.line, column := i.column + 1 }

/-- Goes past a number of characters. -/
def skip (i : Input) : Nat → Input
  | 0 => i
  | n + 1 => i.advance.skip n

/-- Goes past all characters of a kind. -/
def skipWhile (i : Input) (p : Char → Bool) : Input := i.skip (i.rest.takeWhile p).length

/-- Goes past blanks. -/
def skipBlanks (i : Input) : Input := i.skipWhile isBlank

/-- Goes past a comment, if one starts here. -/
def skipComment (i : Input) : Input :=
  if i.rest.head? == some '#' then i.skipWhile fun c => !isBreak c else i

/-- **The rest of a line that must say nothing more:** blanks, and perhaps a comment. -/
def endLine? (i : Input) : Option Input :=
  let i := i.skipBlanks.skipComment
  match i.rest with
  | [] => some i
  | c :: _ => if isBreak c then some i.advance else none

/-- The mark of three characters in the first column, if one stands here: dashes before a document, and
    dots after it. -/
def fence? (i : Input) : Option Char :=
  match i.rest with
  | a :: b :: c :: rest =>
    if i.column == 0 && a == b && b == c && (a == '-' || a == '.') && isGap rest.head? then some a
    else none
  | _ => none

/-! ## §3. Between tokens. -/

/-- Where a search for a token is: within a comment or not, and whether a key may start. -/
structure Search where
  comment : Bool := false
  keys : Bool
deriving Repr, DecidableEq

/-- One character that is no part of a token.  Tabs are, where a key may start outside brackets; and
    outside brackets a key may start on each new line. -/
def Search.step (flow : Bool) (s : Search) (c : Char) : Option Search :=
  if isBreak c then some { comment := false, keys := s.keys || !flow }
  else if s.comment || c == ' ' || (c == '\t' && (flow || !s.keys)) then some s
  else if c == '#' then some { s with comment := true }
  else none

/-- Goes on over a list of characters, as far as they are no part of a token. -/
def searchFrom (flow : Bool) : List Char → Search → Input → Search × Input
  | [], s, i => (s, i)
  | c :: rest, s, i =>
    match s.step flow c with
    | some s => searchFrom flow rest s i.advance
    | none => (s, i)

/-- **Goes to the next token.**  The answer says whether a key may start there.  A byte order mark may
    start the text. -/
def toToken (flow keys : Bool) (i : Input) : Bool × Input :=
  let i := if i.bytes == 0 && i.rest.head? == some '\uFEFF' then i.advance else i
  let (s, i) := searchFrom flow i.rest { keys } i
  (s.keys, i)

end Input

end Realm.Yaml
