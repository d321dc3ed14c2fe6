/-
  Realm.Command — what a command leaves behind for whoever called it.
-/
namespace Realm

/-- The lines of a text.  A carriage return before the end of a line is a part of that end. -/
def linesOf (text : String) : List String :=
  let lines := text.splitOn "\n"
  (if lines.getLast? == some "" then lines.dropLast else lines).map fun l =>
    if l.endsWith "\r" then (l.dropEnd 1).toString else l

/-- An exit code and the texts that were printed, each with a line end after it. -/
structure CommandResult where
  code : UInt32
  stdout : List String
  stderr : List String
deriving Repr, DecidableEq

namespace CommandResult

/-- A command that prints one complaint and gives up. -/
def failure (text : String) : CommandResult := ⟨1, [], [text]⟩

/-- The lines that printed texts make: a text may hold line ends of its own. -/
def printedLines (texts : List String) : List String := linesOf (.join (texts.map (·.push '\n')))

/-- The same with one line for each text. -/
def byLines (r : CommandResult) : CommandResult :=
  { r with stdout := printedLines r.stdout, stderr := printedLines r.stderr }

end CommandResult

end Realm
