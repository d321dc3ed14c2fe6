/-
  Realm.GameLog — the log that lies in a folder of its own under a world's data.

  A log that is new or empty begins with three lines: a rule, a title, and when it was begun.
-/
import Realm.Disk

namespace Realm.GameLog

def folderName : String := "log"

def fileName : String := "game.log"

/-- The rule over the title. -/
def ruleWidth : Nat := 79

/-- The lines that a log begins with, given the moment it was begun. -/
def header (moment : String) : List String :=
  ["".pushn '-' ruleWidth, "Tibia - Graphical Multi-User-Dungeon", s!"{fileName} - gestartet {moment}"]

/-- Lines as bytes, each with a line end. -/
def encodeLines (lines : List String) : Array UInt8 :=
  (String.join (lines.map (·.push '\n'))).toUTF8.data

/-- Why a log cannot be had. -/
inductive Fault
  | noFolder
  | cannotOpen (path : String)
deriving Repr, DecidableEq

def Fault.message : Fault → String
  | noFolder => "log directory create failed"
  | cannotOpen path => s!"open log {path} failed"

/-- Where the log of a world's data lies. -/
def pathUnder (root : String) : String := Path.join (Path.join root folderName) fileName

/-- **Opens the log,** with its folder if need be; what it holds already stays. -/
def openUnder (disk : Disk) (root moment : String) : Except Fault Disk :=
  let path := pathUnder root
  match disk.createFolders? (Path.join root folderName) with
  | none => .error .noFolder
  | some disk =>
    match disk.lookup path with
    | .folder => .error (.cannotOpen path)
    | .file bytes =>
      .ok (if bytes.isEmpty then disk.write path (encodeLines (header moment)) else disk)
    | .missing => .ok (disk.write path (encodeLines (header moment)))

end Realm.GameLog
