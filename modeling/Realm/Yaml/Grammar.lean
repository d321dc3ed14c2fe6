/-
  Realm.Yaml.Grammar — which tokens belong together: from tokens to one node.

  Wherever a node may stand it can be left out, and what comes next tells that it was.
-/
import Realm.Yaml.Node

namespace Realm.Yaml

/-- Short forms and the starts of tags that they stand for. -/
abbrev Handles : Type := List (String × Tag)

/-- Reads something from the front of some tokens. -/
abbrev Grammar (α : Type) : Type := ReaderT Handles (StateT (List Token) Option) α

namespace Grammar

/-! ## §1. Single tokens. -/

def skip : Grammar Unit := modify List.tail

/-- Whether one of some tokens comes next. -/
def sees (ts : List Token) : Grammar Bool := return (← get).head?.any ts.contains

/-- Goes past a token if it comes next, and says whether it did. -/
def accept (t : Token) : Grammar Bool := do
  let seen ← sees [t]
  if seen then skip
  return seen

/-- Goes past a token that must come next. -/
def expect (t : Token) : Grammar Unit := do
  if !(← accept t) then failure

def reference? : Grammar (Option String) := do
  match ← get with
  | .reference name :: _ =>
    skip
    return some name
  | _ => return none

def anchor? : Grammar (Option String) := do
  match ← get with
  | .anchor name :: _ =>
    skip
    return some name
  | _ => return none

/-- A tag in full: its short form must be known. -/
def tag? : Grammar (Option Tag) := do
  match ← get with
  | .tag handle suffix :: _ =>
    skip
    if handle.isEmpty then return some suffix
    else
      let start ← (← read).lookup handle
      return some (start ++ suffix)
  | _ => return none

/-- An anchor and a tag, each of them at most once, in either order. -/
def properties : Grammar (Properties String) := do
  let first ← anchor?
  let tag ← tag?
  let anchor ← if first.isSome then pure first else anchor?
  return { anchor, tag }

/-! ## §2. Nodes, lists and records. -/

/-- A node that says nothing beside its anchor and its tag; one of them must be there. -/
def bare (p : Properties String) : Grammar (Node String) :=
  if p = {} then failure else return .scalar p .plain ""

mutual

/-- **A node.**  Outside brackets it may be told by columns; as a part of a field it may be a list whose
    dashes are in the column of the field. -/
def node (block aligned : Bool) : Nat → Grammar (Node String)
  | 0 => failure
  | fuel + 1 => do
    match ← reference? with
    | some name => return .reference name
    | none => content block aligned fuel (← properties)

/-- A node that is left out where one of some tokens comes next. -/
def nodeBefore (ends : List Token) (block aligned : Bool) : Nat → Grammar (Node String)
  | 0 => failure
  | fuel + 1 => do
    if ← sees ends then return .empty else node block aligned fuel

/-- What a node says, after its anchor and its tag. -/
def content (block aligned : Bool) : Nat → Properties String → Grammar (Node String)
  | 0, _ => failure
  | fuel + 1, p => do
    match ← get with
    | .scalar style text :: _ =>
      skip
      return .scalar p style text
    | .openList :: _ =>
      skip
      return .list p (← flowItems fuel [])
    | .openRecord :: _ =>
      skip
      return .record p (← flowFields fuel [])
    | .dash :: _ => if aligned then return .list p (← alignedItems fuel []) else bare p
    | .blockList :: _ =>
      if block then
        skip
        return .list p (← blockItems fuel [])
      else bare p
    | .blockRecord :: _ =>
      if block then
        skip
        return .record p (← blockFields fuel [])
      else bare p
    | _ => bare p

/-- The rest of a list that is told by columns, on top of its elements so far. -/
def blockItems : Nat → List (Node String) → Grammar (List (Node String))
  | 0, _ => failure
  | fuel + 1, seen => do
    if ← accept .blockEnd then return seen.reverse
    expect .dash
    let item ← nodeBefore [.dash, .blockEnd] true false fuel
    blockItems fuel (item :: seen)

/-- The rest of a list whose dashes are in the column of its field. -/
def alignedItems : Nat → List (Node String) → Grammar (List (Node String))
  | 0, _ => failure
  | fuel + 1, seen => do
    if ← accept .dash then
      let item ← nodeBefore [.dash, .key, .value, .blockEnd] true false fuel
      alignedItems fuel (item :: seen)
    else return seen.reverse

/-- The rest of a list in brackets. -/
def flowItems : Nat → List (Node String) → Grammar (List (Node String))
  | 0, _ => failure
  | fuel + 1, seen => do
    if ← accept .closeList then return seen.reverse
    if !seen.isEmpty then expect .comma
    if ← accept .closeList then return seen.reverse
    let item ← if ← accept .key then flowPair fuel else node false false fuel
    flowItems fuel (item :: seen)

/-- The rest of a record that is told by columns, on top of its fields so far. -/
def blockFields :
    Nat → List (Node String × Node String) → Grammar (List (Node String × Node String))
  | 0, _ => failure
  | fuel + 1, seen => do
    let ends : List Token := [.key, .value, .blockEnd]
    if ← accept .blockEnd then return seen.reverse
    expect .key
    let key ← nodeBefore ends true true fuel
    let value ← if ← accept .value then nodeBefore ends true true fuel else pure .empty
    blockFields fuel ((key, value) :: seen)

/-- The value after a key in brackets, if there is a colon. -/
def flowValue (ends : List Token) : Nat → Grammar (Node String)
  | 0 => failure
  | fuel + 1 => do
    if ← accept .value then nodeBefore ends false false fuel else return .empty

/-- A field that is an element of a list.  Where its key is left out, the token that tells so is passed
    over. -/
def flowPair : Nat → Grammar (Node String)
  | 0 => failure
  | fuel + 1 => do
    let key ←
      if ← sees [.value, .comma, .closeList] then
        skip
        pure .empty
      else node false false fuel
    let value ← flowValue [.comma, .closeList] fuel
    return .record {} [(key, value)]

/-- The rest of a record in brackets. -/
def flowFields :
    Nat → List (Node String × Node String) → Grammar (List (Node String × Node String))
  | 0, _ => failure
  | fuel + 1, seen => do
    if ← accept .closeRecord then return seen.reverse
    if !seen.isEmpty then expect .comma
    if ← accept .closeRecord then return seen.reverse
    if ← accept .key then
      let key ← nodeBefore [.value, .comma, .closeRecord] false false fuel
      let value ← flowValue [.comma, .closeRecord] fuel
      flowFields fuel ((key, value) :: seen)
    else
      let key ← node false false fuel
      flowFields fuel ((key, .empty) :: seen)

end

end Grammar

/-! ## §3. Whole texts. -/

/-- The short forms that every text knows. -/
def Handles.usual : Handles := [("!", [0x21]), ("!!", Tag.core "")]

/-- The lines for the reader in front of a document, on top of the short forms so far: at most one
    version, which is known, and each short form at most once. -/
def Handles.ofTokens? : Bool → Handles → List Token → Option (Handles × List Token)
  | versioned, handles, .version major minor :: rest =>
    if versioned || major != 1 || !(minor == 1 || minor == 2) then none
    else ofTokens? true handles rest
  | versioned, handles, .handle name start :: rest =>
    if (handles.lookup name).isSome then none
    else ofTokens? versioned ((name, start) :: handles) rest
  | _, handles, rest => some (handles, rest)

/-- The node after the lines for the reader, and nothing after it but marks that it has ended. -/
def Node.ofBody? (handles : Handles) (mayBeEmpty : Bool) (tokens : List Token) :
    Option (Node String) := do
  let (node, rest) ←
    if mayBeEmpty && tokens.head?.all (· == .documentEnd) then some (.empty, tokens)
    else ((Grammar.node true false (4 * tokens.length + 8)).run (handles ++ .usual)).run tokens
  if rest.all (· == .documentEnd) then return node else none

/-- **The node that some tokens write.**  After lines for the reader the mark of a document must come;
    no tokens at all are an empty node, and so is a marked document without any. -/
def Node.ofTokens? (tokens : List Token) : Option (Node String) := do
  let (handles, rest) ← Handles.ofTokens? false [] tokens
  match rest with
  | .documentStart :: rest => ofBody? handles true rest
  | rest => if rest.length < tokens.length then none else ofBody? handles tokens.isEmpty rest

end Realm.Yaml
