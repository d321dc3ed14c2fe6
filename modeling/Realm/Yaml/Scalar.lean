/-
  Realm.Yaml.Scalar — texts: plain, quoted, and in blocks.

  Plain and quoted texts are folded: a line end within them is a blank, and of several line ends in a
  row the first one is dropped.  The separators of Unicode end lines too, and stay as they are.
-/
import Realm.Yaml.Number
import Realm.Yaml.Token

namespace Realm.Yaml

/-! ## §1. Gaps. -/

/-- A stretch of blanks and line ends: the blanks before the first line end, and the line ends, both
    last one first. -/
structure Gap where
  blanks : List Char := []
  breaks : List Char := []
deriving Repr, DecidableEq

namespace Gap

/-- One more character of a gap. -/
def add (g : Gap) (c : Char) : Gap :=
  if isBreak c then { g with breaks := c :: g.breaks }
  else if g.breaks.isEmpty then { g with blanks := c :: g.blanks }
  else g

/-- What a gap stands for within a text, last character first. -/
def folded (g : Gap) : List Char :=
  match g.breaks with
  | [] => g.blanks
  | ['\n'] => [' ']
  | breaks => if breaks.getLast? == some '\n' then breaks.dropLast else breaks

end Gap

/-- Goes over a gap.  After a line end no tab may stand in a column before a limit. -/
def gapFrom? (limit : Int) : List Char → Gap → Input → Option (Gap × Input)
  | [], g, i => some (g, i)
  | c :: rest, g, i =>
    if isBlank c || isBreak c then
      if c == '\t' && !g.breaks.isEmpty && i.column < limit then none
      else gapFrom? limit rest (g.add c) i.advance
    else some (g, i)

/-- The gap where the reader is. -/
def Input.gap? (i : Input) (limit : Int) : Option (Gap × Input) := gapFrom? limit i.rest {} i

/-! ## §2. Plain texts. -/

/-- Whether a plain text can start with a character before another one. -/
def startsPlain (flow : Bool) (c : Char) (next : Option Char) : Bool :=
  !(isGap (some c) || indicators.contains c) || (c == '-' && !next.any isBlank)
    || (!flow && (c == '?' || c == ':') && !isGap next)

/-- A stretch of a plain text without gaps.  Within brackets no colon may come right before a mark. -/
def stretch? (flow : Bool) : List Char → Option (List Char)
  | [] => some []
  | c :: rest =>
    if isGap (some c) then some []
    else if flow && c == ':' && rest.head?.any fun d => d == '?' || brackets.contains d then none
    else if (c == ':' && isGap rest.head?) || (flow && brackets.contains c) then some []
    else (stretch? flow rest).map (c :: ·)

/-- A plain text on its way: what was read of it (last character first), the gap after that, and where
    it and its gaps end. -/
structure PlainText where
  read : List Char := []
  gap : Gap := {}
  input : Input

/-- **A plain text,** on top of what was read.  Outside brackets its lines are indented as far as a
    limit; a comment ends it, and so does the mark of a document. -/
def plainFrom? (flow : Bool) (limit : Int) : Nat → PlainText → Option PlainText
  | 0, _ => none
  | fuel + 1, t => do
    let i := t.input
    if i.fence?.isSome || i.rest.head? == some '#' then return t
    let read ← stretch? flow i.rest
    let (gap, after) ← (i.skip read.length).gap? limit
    let t : PlainText :=
      if read.isEmpty then { t with input := after }
      else { read := read.reverse ++ t.gap.folded ++ t.read, gap, input := after }
    if gap = {} || (!flow && after.column < limit) then return t
    else plainFrom? flow limit fuel t

/-- A plain text in a place of some indentation; more steps than it has characters are enough.  The
    answer says whether a new line was begun after it. -/
def plain? (flow : Bool) (indent : Int) (fuel : Nat) (i : Input) : Option (String × Bool × Input) := do
  let t ← plainFrom? flow (indent + 1) fuel { input := i }
  return (String.ofList t.read.reverse, !t.gap.breaks.isEmpty, t.input)

/-! ## §3. Quoted texts. -/

/-- The character that an escape of one letter stands for. -/
def escapeOf? (c : Char) : Option Char :=
  [('0', '\x00'), ('a', '\x07'), ('b', '\x08'), ('t', '\t'), ('\t', '\t'), ('n', '\n'),
    ('v', '\x0b'), ('f', '\x0c'), ('r', '\r'), ('e', '\x1b'), (' ', ' '), ('"', '"'), ('/', '/'),
    ('\\', '\\'), ('N', '\u0085'), ('_', '\u00a0'), ('L', '\u2028'), ('P', '\u2029')].lookup c

/-- The digits that an escape by number has. -/
def escapeDigits? (c : Char) : Option Nat := [('x', 2), ('u', 4), ('U', 8)].lookup c

/-- The character with a number. -/
def charOf? (n : Nat) : Option Char := if n.isValidChar then some (Char.ofNat n) else none

/-- An escape after its backslash: what it stands for, and how many characters write it. -/
def escape? (cs : List Char) : Option (Char × Nat) :=
  match cs with
  | [] => none
  | c :: rest =>
    match escapeOf? c, escapeDigits? c with
    | some d, _ => some (d, 1)
    | none, some n =>
      if (rest.take n).length = n then
        ((Number.digits? 16 (rest.take n)).bind charOf?).map (·, n + 1)
      else none
    | none, none => none

/-- What comes next in a quoted text: the closing quote, or something that stands for characters (last
    one first), and where it ends. -/
inductive QuotedPart
  | close (after : Input)
  | part (cs : List Char) (after : Input)

/-- **One part of a quoted text.**  In single quotes a quote is written twice; in double quotes there
    are escapes, and a backslash takes a line end away with the blanks after it. -/
def quotedPart? (double : Bool) (i : Input) : Option QuotedPart :=
  match i.rest with
  | [] => none
  | c :: rest =>
    let noLimit : Int := 0
    if isGap (some c) then (i.gap? noLimit).map fun (g, after) => .part g.folded after
    else if double && c == '\\' then
      if rest.head?.any isBreak then
        (i.advance.advance.gap? noLimit).map fun (g, after) => .part g.breaks after
      else (escape? rest).map fun (d, n) => .part [d] (i.skip (n + 1))
    else if !double && c == '\'' && rest.head? == some '\'' then some (.part ['\''] (i.skip 2))
    else if c == (if double then '"' else '\'') then some (.close i.advance)
    else some (.part [c] i.advance)

/-- The rest of a quoted text, on top of what was read.  The mark of a document may not stand in it. -/
def quotedFrom? (double : Bool) : Nat → List Char → Input → Option (List Char × Input)
  | 0, _, _ => none
  | fuel + 1, read, i => do
    if i.fence?.isSome then none
    else
      match ← quotedPart? double i with
      | .close after => return (read, after)
      | .part cs after => quotedFrom? double fuel (cs ++ read) after

/-- A quoted text, from its opening quote on; as many steps as it has characters are enough. -/
def quoted? (double : Bool) (fuel : Nat) (i : Input) : Option (String × Input) := do
  let (read, after) ← quotedFrom? double fuel [] i.advance
  return (String.ofList read.reverse, after)

/-! ## §4. Blocks. -/

/-- What becomes of the line ends after a block. -/
inductive Chomp
  | strip
  | clip
  | keep
deriving Repr, DecidableEq

/-- The head of a block: whether it is folded, what becomes of its last line ends, and how much further
    than its surroundings it is indented, if that is said. -/
structure BlockHead where
  isFolded : Bool
  chomp : Chomp := .clip
  further : Option Nat := none
deriving Repr, DecidableEq

/-- Reads one mark of a block's head. -/
def BlockHead.mark? (h : BlockHead) (c : Char) : Option BlockHead :=
  if c == '-' && h.chomp == .clip then some { h with chomp := .strip }
  else if c == '+' && h.chomp == .clip then some { h with chomp := .keep }
  else if c.isDigit && c != '0' && h.further.isNone then
    some { h with further := some (c.toNat - '0'.toNat) }
  else none

/-- The head of a block with some marks. -/
def BlockHead.ofMarks? (isFolded : Bool) (marks : List Char) : Option BlockHead :=
  marks.foldlM BlockHead.mark? { isFolded }

/-- A line and the character that ends it, which the last line of a text does not have. -/
structure Line where
  text : List Char
  ending : Option Char
deriving Repr, DecidableEq

namespace Line

/-- The lines of a text. -/
def ofText : List Char → List Line
  | [] => [⟨[], none⟩]
  | c :: rest =>
    if isBreak c then ⟨[], some c⟩ :: ofText rest
    else
      match ofText rest with
      | [] => [⟨[c], none⟩]
      | l :: lines => { l with text := c :: l.text } :: lines

/-- How far a line is indented. -/
def indent (l : Line) : Nat := (l.text.takeWhile (· == ' ')).length

/-- Whether a line holds blanks alone. -/
def isEmpty (l : Line) : Bool := l.text.all (· == ' ')

/-- Whether a tab stands right after the blanks of a line. -/
def isTabbed (l : Line) : Bool := l.text[l.indent]? == some '\t'

end Line

/-- A block on its way: its text, the line end that is due, the line ends of empty lines after that
    (texts and line ends last one first), and whether the last line starts with a blank. -/
structure BlockText where
  text : List Char := []
  due : Option Char := none
  empty : List Char := []
  blank : Bool := false

namespace BlockText

/-- One more line with text on it.  In a folded block the line end before it is a blank, unless a line
    next to it starts with a blank or lines stand empty between them. -/
def line (isFolded : Bool) (b : BlockText) (text : List Char) (ending : Option Char) : BlockText :=
  let blank := text.head?.any isBlank
  let between :=
    if isFolded && b.due == some '\n' && !b.blank && !blank then
      (if b.empty.isEmpty then [' '] else [])
    else b.due.toList
  { text := text.reverse ++ b.empty ++ between ++ b.text
    due := ending
    empty := []
    blank }

/-- The finished text. -/
def finish (b : BlockText) (c : Chomp) : List Char :=
  let due := if c == .strip then [] else b.due.toList
  let empty := if c == .keep then b.empty else []
  (empty ++ due ++ b.text).reverse

end BlockText

/-- The indentation of a block: that of its first line with text, or of an empty line before it that is
    indented further.  No tab may indent a line. -/
def blockIndent? : Nat → List Line → Option Nat
  | least, [] => some least
  | least, l :: rest =>
    if l.isTabbed then none
    else if l.isEmpty then blockIndent? (max least l.indent) rest
    else some (max least l.indent)

/-- Collects the lines of a block; the answer has the lines after it too.  No tab may stand in front of
    the block's own indentation. -/
def blockLines? (isFolded : Bool) (indent : Nat) : BlockText → List Line →
    Option (BlockText × List Line)
  | b, [] => some (b, [])
  | b, l :: rest =>
    if indent ≤ l.indent && indent < l.text.length then
      blockLines? isFolded indent (b.line isFolded (l.text.drop indent) l.ending) rest
    else if l.isEmpty then
      blockLines? isFolded indent { b with empty := l.ending.toList ++ b.empty } rest
    else if l.isTabbed then none
    else some (b, l :: rest)

/-- How many characters some lines are. -/
def lengthOf (lines : List Line) : Nat :=
  lines.foldl (fun n l => n + l.text.length + l.ending.toList.length) 0

/-- **A block,** from its mark on, in a place of some indentation. -/
def block? (indent : Int) (i : Input) : Option (String × Input) := do
  let isMark (c : Char) : Bool := c == '-' || c == '+' || c.isDigit
  let marks := (i.rest.drop 1).takeWhile isMark
  let h ← BlockHead.ofMarks? (i.rest.head? == some '>') marks
  let i ← (i.skip (marks.length + 1)).endLine?
  let lines := Line.ofText i.rest
  let least := (max (indent + 1) 1).toNat
  let own ← match h.further with
    | some n => some ((max indent 0).toNat + n)
    | none => blockIndent? least lines
  let (b, rest) ← blockLines? h.isFolded own {} lines
  return (String.ofList (b.finish h.chomp), i.skip (i.rest.length - lengthOf rest))

end Realm.Yaml
