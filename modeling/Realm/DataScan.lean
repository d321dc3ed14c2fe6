/-
  Realm.DataScan — reads all the data of a world, says what there is, and proves that it can be saved.

  The data lie in one folder.  What is not there is as usual: rules, item types, combats, a map.  What
  is there and cannot be read ends the scan with one line about the first such thing.  At last the map
  is saved beside the data and read back.
-/
import Realm.Authored.Combats
import Realm.Authored.Items
import Realm.Authored.Rules
import Realm.Command
import Realm.GameLog
import Realm.Text.Blank
import Realm.TileMap.WorldFile

namespace Realm.DataScan

/-! ## §1. What can go wrong. -/

/-- Why a scan ended early. -/
inductive Fault
  | usage
  | log (f : GameLog.Fault)
  | cannotRead (path : String)
  | rules (message : String)
  | items (f : Authored.ItemsFault)
  | combats (f : Authored.LibraryFault)
  | world (e : WorldFile.Error)
  | mismatch (written found : Nat)
deriving Repr, DecidableEq

def Fault.message : Fault → String
  | usage => "usage: tibia-core <data-root> [rules.yml]"
  | log f => f.message
  | cannotRead path => s!"read {path} failed"
  | rules message => message
  | items f => f.message
  | combats f => f.message
  | world e => e.message
  | mismatch written found => s!"save check mismatch: wrote {written} tiles, read {found}"

/-! ## §2. Where things are. -/

/-- What a scan is asked to look at: the folder with the data, and the file with the rules when it is
    named. -/
structure Request where
  root : String
  rulesPath : Option String
deriving Repr, DecidableEq

namespace Request

/-- A second argument names the rules, or else what the environment says, unless that is blank. -/
def ofArgs (args : List String) (usual : Option String) : Except Fault Request :=
  match args with
  | [] => .error .usage
  | [root] => .ok ⟨root, (usual.map Blank.trim).filter (· ≠ "")⟩
  | root :: path :: _ => .ok ⟨root, some path⟩

/-- A file among the data. -/
def file (r : Request) (name : String) : String := Path.join r.root name

def usualRules (r : Request) : String := r.file "rules.yml"

def items (r : Request) : String := r.file "items.yml"

def combats (r : Request) : String := r.file "combat.yml"

def world (r : Request) : String := r.file WorldFile.fileName

/-- Where the copy of the map is saved. -/
def copy (r : Request) : String := r.file "world.check.bin"

/-- All files that a scan may read or write. -/
def paths (r : Request) : List String :=
  [r.rulesPath.getD r.usualRules, r.items, r.combats, r.world, r.copy, GameLog.pathUnder r.root]

end Request

/-- The text of a file. -/
def readText (disk : Disk) (path : String) : Except Fault String :=
  match (disk.read? path).bind fun bytes => Utf8.decode? bytes.toList with
  | some text => .ok text
  | none => .error (.cannotRead path)

/-! ## §3. Reading the data. -/

/-- Areas that are remembered while combats are read. -/
def areaLimit : Nat := 64

/-- Rules named by the request must be there; the usual ones need not. -/
def readRules (disk : Disk) (r : Request) : Except Fault Rules := do
  match r.rulesPath with
  | some path => (Authored.rules (← readText disk path)).mapError .rules
  | none =>
    if disk.isFile r.usualRules then
      (Authored.rules (← readText disk r.usualRules)).mapError .rules
    else .ok {}

def readItems (disk : Disk) (r : Request) : Except Fault Catalogue := do
  if disk.isFile r.items then (Authored.items (← readText disk r.items)).mapError .items
  else .ok .empty

/-- The combats, and the number of areas that they cover. -/
def readCombats (disk : Disk) (r : Request) : Except Fault (Authored.Library × Nat) := do
  if disk.isFile r.combats then
    let (library, cache) := Authored.combats (← readText disk r.combats) (.ofCapacity areaLimit)
    return (← library.mapError .combats, cache.size)
  else .ok ({}, 0)

def readWorld (disk : Disk) (r : Request) (c : Catalogue) :
    Except Fault (TileMap × WorldFile.Report) :=
  if disk.isFile r.world then (WorldFile.load disk r.world c true).mapError .world
  else .ok (.empty c, {})

/-- Everything that was read. -/
structure Survey where
  rules : Rules
  catalogue : Catalogue
  library : Authored.Library
  areas : Nat
  map : TileMap
  report : WorldFile.Report

/-- **Reads the data,** as far as the first fault. -/
def survey (disk : Disk) (r : Request) : Except Fault Survey := do
  let rules ← readRules disk r
  let catalogue ← readItems disk r
  let (library, areas) ← readCombats disk r
  let (map, report) ← readWorld disk r catalogue
  return { rules, catalogue, library, areas, map, report }

/-! ## §4. What is said. -/

/-- What is said of the world. -/
def worldLine (disk : Disk) (r : Request) (report : WorldFile.Report) : String :=
  if disk.isFile r.world then
    s!"- world: tiles={report.tiles}, items={report.items}, skipped={report.skipped}, errors={report.faults.length}"
  else s!"- world: missing {r.world}"

namespace Survey

/-- The lines about the data. -/
def lines (s : Survey) (disk : Disk) (r : Request) : List String :=
  ["tibia-core: data scan",
    s!"- root: {r.root}",
    s!"- log: {GameLog.pathUnder r.root}",
    s!"- rules: world_type={s.rules.worldType.title}, pvp_damage={s.rules.pvpDamage}%, min_pvp_level={s.rules.minPvpLevel}",
    s!"- item types: {s.catalogue.size}",
    s!"- combats: {s.library.size} ({s.areas} distinct areas)"]
  ++ s.library.keys.map (fun name => s!"  - {name}")
  ++ [worldLine disk r s.report]

/-- The lines about what was skipped. -/
def complaints (s : Survey) : List String :=
  s.report.faults.map fun f => s!"tibia-core: world load {f.message}"

end Survey

/-! ## §5. The scan. -/

/-- **Saves a map and reads it back.**  The answer is the number of tiles, the same both ways. -/
def checkSaving (disk : Disk) (path : String) (m : TileMap) : Except Fault Nat × Disk :=
  match WorldFile.save disk path m with
  | (.error e, disk) => (.error (.world e), disk)
  | (.ok written, disk) =>
    match WorldFile.load disk path m.catalogue false with
    | .error e => (.error (.world e), disk)
    | .ok (_, report) =>
      (if report.tiles = written then .ok written else .error (.mismatch written report.tiles), disk)

/-- A scan of data whose log is open. -/
def run (disk : Disk) (r : Request) : CommandResult × Disk :=
  match survey disk r with
  | .error f => (.failure f.message, disk)
  | .ok s =>
    match checkSaving disk r.copy s.map with
    | (.error f, after) => (⟨1, s.lines disk r, s.complaints ++ [f.message]⟩, after)
    | (.ok n, after) =>
      (⟨0, s.lines disk r ++ [s!"- save check: {n} tiles written and read back"], s.complaints⟩, after)

/-- **The scan command.**  It is given its arguments, the rules that the environment names, and how the
    moment is written. -/
def scanCommand (disk : Disk) (args : List String) (usual : Option String) (moment : String) :
    CommandResult × Disk :=
  match Request.ofArgs args usual with
  | .error f => (.failure f.message, disk)
  | .ok r =>
    match GameLog.openUnder disk r.root moment with
    | .error f => (.failure (Fault.log f).message, disk)
    | .ok disk => run disk r

end Realm.DataScan
