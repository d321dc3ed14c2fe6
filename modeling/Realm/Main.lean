/-
  Realm.Main — the two commands on real files.

  The files that a command may look at are put on a disk first; the command works on the disk, and what
  it changed goes back to the files.  Under one name the program lists the nodes of a file, under any
  other it scans the data of a world.
-/
import Realm.DataScan
import Realm.NodeFile.Outline
import Std.Time.DateTime.PlainDateTime
import Std.Time.DateTime.Timestamp

namespace Realm.Main

/-! ## §1. The moment. -/

def weekdays : List String := ["Mon", "Tue", "Wed", "Thu", "Fri", "Sat", "Sun"]

def months : List String :=
  ["Jan", "Feb", "Mar", "Apr", "May", "Jun", "Jul", "Aug", "Sep", "Oct", "Nov", "Dec"]

/-- A number filled up on its left to two places. -/
def twoPlaces (fill : Char) (n : Nat) : String :=
  if n < 10 then (toString fill) ++ toString n else toString n

/-- A moment as a log's title has it. -/
def momentText (t : Std.Time.PlainDateTime) : String :=
  let weekday := weekdays.getD (t.weekday.toOrdinal.val.toNat - 1) ""
  let month := months.getD (t.month.val.toNat - 1) ""
  let clock := ":".intercalate ([t.hour.val, t.minute.val, t.second.val].map fun n =>
    twoPlaces '0' n.toNat)
  let day := twoPlaces ' ' t.day.val.toNat
  s!"{weekday} {month} {day} {clock} {t.year.toInt}"

/-- This very moment. -/
def now : IO String := do
  let t ← Std.Time.Timestamp.now
  return momentText (.ofWallTime (.ofNanoseconds t.toNanosecondsSinceUnixEpoch))

/-! ## §2. Files. -/

/-- What an action gives, if it does not fail. -/
def attempt {α : Type} (act : IO α) : IO (Option α) := do
  match ← act.toBaseIO with
  | .ok a => return some a
  | .error _ => return none

/-- Puts what lies at a path on a disk: what can be opened and not read is a folder. -/
def copyIn (disk : Disk) (path : String) : IO Disk := do
  match ← attempt (IO.FS.Handle.mk path .read) with
  | none => return disk
  | some handle =>
    match ← attempt handle.readBinToEnd with
    | some bytes => return disk.write path bytes.data
    | none => return (disk.createFolders? path).getD disk

/-- Puts what lies at some paths, and on the way to them, on a disk. -/
def copyAll (paths : List String) : IO Disk := (paths.flatMap Path.stages).foldlM copyIn .empty

/-- Writes a file that a command changed. -/
def copyOut (before after : Disk) (path : String) : IO Unit :=
  match after.read? path with
  | some bytes =>
    if before.read? path = some bytes then return ()
    else do
      if Path.parent path != "" then IO.FS.createDirAll (Path.parent path)
      IO.FS.writeBinFile path ⟨bytes⟩
  | none => return ()

/-- Prints what a command has to say. -/
def report (r : CommandResult) : IO UInt32 := do
  r.stdout.forM fun line => IO.println line
  r.stderr.forM fun line => IO.eprintln line
  return r.code

/-! ## §3. The commands. -/

/-- Lists the nodes of a file. -/
def runList (args : List String) : IO UInt32 := do
  report (NodeFile.listCommand (← copyAll (args.take 1)) args)

/-- Scans the data of a world. -/
def runScan (args : List String) : IO UInt32 := do
  let usual ← IO.getEnv "TIBIA_RULES"
  let paths := match DataScan.Request.ofArgs args usual with
    | .ok r => r.paths
    | .error _ => []
  let before ← copyAll paths
  let (r, after) := DataScan.scanCommand before args usual (← now)
  paths.forM (copyOut before after)
  report r

end Realm.Main

def main (args : List String) : IO UInt32 := do
  if (← IO.appPath).toString.endsWith "node_dump" then Realm.Main.runList args
  else Realm.Main.runScan args
