/-
  Realm.Disk — files and folders as a value, and a buffered writer.

  A path is a text with slashes.  It is followed part by part, and every part but the last must be a
  folder that is there; empty parts and single dots stay in it, and two dots lead back out of it.  A
  writer collects what it is given and hands it to its file when its buffer is full, when it is flushed,
  and when it is closed.
-/
import Std.Data.ExtTreeMap
import Std.Data.ExtTreeSet

namespace Realm

/-! ## §1. Paths. -/

namespace Path

/-- The parts of a path, as they are written. -/
def parts (path : String) : List String := path.splitOn "/"

/-- A path without its last part. -/
def parent (path : String) : String := "/".intercalate (parts path).dropLast

/-- A path after its first part, its second part, and so on. -/
def stages (path : String) : List String :=
  (List.range (parts path).length).map fun k => "/".intercalate ((parts path).take (k + 1))

/-- A name inside a folder. -/
def join (folder name : String) : String :=
  if name.startsWith "/" || folder == "" then name
  else if folder.endsWith "/" then folder ++ name
  else folder ++ "/" ++ name

end Path

/-- A place on a disk: whether its path starts at the top, and its parts, last one first.  A path that
    does not start at the top may lead above where it starts. -/
structure Place where
  absolute : Bool
  parts : List String
deriving Repr, DecidableEq

namespace Place

/-- Where a path starts. -/
def start (path : String) : Place := ⟨path.startsWith "/", []⟩

/-- Whether this is where paths start, or above that. -/
def isOutside (p : Place) : Bool := p.parts.all (· == "..")

/-- Where one more part of a path leads.  Nothing is above the top of the disk. -/
def enter (p : Place) (part : String) : Place :=
  if part == "" || part == "." then p
  else if part != ".." then { p with parts := part :: p.parts }
  else if !p.isOutside then { p with parts := p.parts.tail }
  else if p.absolute then p
  else { p with parts := part :: p.parts }

/-- The one spelling of a place. -/
def spelling (p : Place) : String :=
  (if p.absolute then "/" else "") ++ "/".intercalate p.parts.reverse

end Place

/-! ## §2. The disk. -/

/-- Files with their bytes, and the folders there are, both under the spellings of their places. -/
structure Disk where
  files : Std.ExtTreeMap String (Array UInt8) := {}
  folders : Std.ExtTreeSet String := {}

/-- What is found at a path. -/
inductive DiskEntry
  | missing
  | folder
  | file (bytes : Array UInt8)

namespace Disk

/-- A disk with nothing on it. -/
def empty : Disk := {}

/-- Whether a place is a folder.  Where paths start is one, and so is what is above it. -/
def isFolder (d : Disk) (p : Place) : Bool := p.isOutside || d.folders.contains p.spelling

/-- Follows parts of a path from a place on, through folders alone. -/
def follow? (d : Disk) : Place → List String → Option Place
  | p, [] => some p
  | p, part :: rest => if d.isFolder p then d.follow? (p.enter part) rest else none

/-- **The place that a path leads to,** whatever is there. -/
def place? (d : Disk) (path : String) : Option Place :=
  if path == "" then none else d.follow? (.start path) (Path.parts path)

def lookup (d : Disk) (path : String) : DiskEntry :=
  match d.place? path with
  | none => .missing
  | some p =>
    match d.files[p.spelling]? with
    | some bytes => .file bytes
    | none => if d.isFolder p then .folder else .missing

/-- The bytes of a file, when there is one. -/
def read? (d : Disk) (path : String) : Option (Array UInt8) :=
  match d.lookup path with
  | .file bytes => some bytes
  | _ => none

def isFile (d : Disk) (path : String) : Bool := (d.read? path).isSome

/-- The place of a file that is at a path or can be made there. -/
def filePlace? (d : Disk) (path : String) : Option Place := (d.place? path).filter (!d.isFolder ·)

/-- An empty file at a path, in a folder that exists. -/
def create? (d : Disk) (path : String) : Option Disk :=
  (d.filePlace? path).map fun p => { d with files := d.files.insert p.spelling #[] }

/-- Puts bytes into a file, whatever it held.  Where no file can be, nothing happens. -/
def write (d : Disk) (path : String) (bytes : Array UInt8) : Disk :=
  match d.filePlace? path with
  | some p => { d with files := d.files.insert p.spelling bytes }
  | none => d

/-- Makes a folder of each place on a way, unless a file is there. -/
def createFrom? : Disk → Place → List String → Option Disk
  | d, _, [] => some d
  | d, p, part :: rest =>
    let next := p.enter part
    if d.files.contains next.spelling then none
    else createFrom? { d with folders := d.folders.insert next.spelling } next rest

/-- **A folder and those on the way to it,** also those that the path leads out of again. -/
def createFolders? (d : Disk) (path : String) : Option Disk :=
  createFrom? d (.start path) (Path.parts path)

/-- Bytes laid over a file from an offset on; a gap in front of them is filled with zeros. -/
def overlay (file : Array UInt8) (offset : Nat) (bytes : Array UInt8) : Array UInt8 :=
  let padded := file ++ Array.replicate (offset - file.size) 0
  padded.extract 0 offset ++ bytes ++ padded.extract (offset + bytes.size) padded.size

def writeAt (d : Disk) (path : String) (offset : Nat) (bytes : Array UInt8) : Disk :=
  if bytes.isEmpty then d
  else d.write path (overlay ((d.read? path).getD #[]) offset bytes)

end Disk

/-! ## §3. The buffered writer. -/

/-- A file being written: how far it is, and what it does not have yet. -/
structure Writer where
  path : String
  offset : Nat := 0
  buffer : Array UInt8 := #[]
deriving Repr, DecidableEq

namespace Writer

/-- Bytes that the buffer holds. -/
def capacity : Nat := 8192

/-- Hands the buffer to the file. -/
def flush (w : Writer) (d : Disk) : Writer × Disk :=
  ({ w with offset := w.offset + w.buffer.size, buffer := #[] }, d.writeAt w.path w.offset w.buffer)

/-- **Writing.**  What fits into the buffer waits there; else the buffer is handed over first, and
    bytes that would fill it on their own go straight to the file. -/
def append (w : Writer) (d : Disk) (bytes : Array UInt8) : Writer × Disk :=
  let spare := capacity - w.buffer.size
  if bytes.size < spare then ({ w with buffer := w.buffer ++ bytes }, d)
  else
    let (w, d) := if spare < bytes.size then w.flush d else (w, d)
    if capacity ≤ bytes.size then
      ({ w with offset := w.offset + bytes.size }, d.writeAt w.path w.offset bytes)
    else ({ w with buffer := w.buffer ++ bytes }, d)

end Writer

end Realm
