/-
  Realm.TileMap.WorldFile — a map kept on a node file.

  Under the root stands one node per tile, in the order of the places, and under each tile one node per
  item.  Static tiles are not kept.  Loading skips what it cannot read and says so in a report; only a
  broken file or root fails it as a whole.
-/
import Realm.Item.Codec
import Realm.NodeFile.Session
import Realm.TileMap.Basic

namespace Realm.WorldFile

open NodeFile (Operation Session)

/-! ## §1. The format. -/

def worldKind : UInt8 := 0

def tileKind : UInt8 := 1

def itemKind : UInt8 := 2

/-- The only format there is. -/
def format : UInt16 := 1

/-- The usual name of a world's file in its folder. -/
def fileName : String := "world.bin"

/-- The properties of the root. -/
def encodeHeader (tileCount : Nat) : List UInt8 :=
  littleEndian 2 format.toNat ++ littleEndian 4 tileCount

/-- The properties of a tile. -/
def encodeTile (p : Position) (flags : TileFlags) : List UInt8 :=
  littleEndian 2 p.x.toNat ++ littleEndian 2 p.y.toNat ++ littleEndian 1 p.z.toNat
    ++ littleEndian 4 flags.toBits.toNat

/-- Reads the properties of a tile. -/
def decodeTile? (c : Cursor) : Option (Position × TileFlags) := do
  let (x, c) ← c.u16?
  let (y, c) ← c.u16?
  let (z, c) ← c.u8?
  let (bits, _) ← c.u32?
  pure (⟨x, y, z⟩, .ofBits bits)

/-! ## §2. Faults. -/

/-- Why a tile or an item was skipped. -/
inductive Fault
  | tileUnreadable (e : NodeFile.Error)
  | tileTruncated
  | itemUnreadable (p : Position) (e : NodeFile.Error)
  | itemMalformed (p : Position) (e : ItemError)
deriving Repr, DecidableEq

/-- Why a world could not be saved or loaded. -/
inductive Error
  | saveFailed (path : String) (e : NodeFile.Error)
  | loadFailed (path : String) (e : NodeFile.Error)
  | noRoot (path : String)
  | wrongRoot (path : String) (kind : Option UInt8)
  | headerUnreadable (e : NodeFile.Error)
  | unsupportedFormat (format : Option UInt16)
deriving Repr, DecidableEq

/-- A place as messages spell it. -/
def placeText (p : Position) : String :=
  s!"Position \x7b x: {p.x}, y: {p.y}, z: {p.z} \x7d"

/-- A number that may be missing, as messages spell it. -/
def optionalText (n : Option Nat) : String :=
  match n with
  | some n => s!"Some({n})"
  | none => "None"

def Fault.message : Fault → String
  | tileUnreadable e => s!"tile props read failed: {e.message}"
  | tileTruncated => "tile props truncated"
  | itemUnreadable p e => s!"item props read failed at {placeText p}: {e.message}"
  | itemMalformed p e => s!"item at {placeText p}: {e.message}"

def Error.message : Error → String
  | saveFailed path e => s!"world save failed for {path}: {e.message}"
  | loadFailed path e => s!"world load failed for {path}: {e.message}"
  | noRoot path => s!"world file {path} has no root"
  | wrongRoot path kind => s!"world file {path} has root type {optionalText (kind.map UInt8.toNat)}"
  | headerUnreadable e => s!"world header read failed: {e.message}"
  | unsupportedFormat format =>
    s!"unsupported world format {optionalText (format.map UInt16.toNat)}"

/-! ## §3. Saving. -/

/-- The tiles that are kept, with their places, in their order. -/
def keptTiles (m : TileMap) : List (Position × Tile) := m.toList.filter fun e => !e.2.isStatic

/-- One item as a node. -/
def writeItem (c : Catalogue) (i : Item) : Operation Unit := do
  Session.startNode itemKind
  Session.setProps (i.encode c)
  Session.endNode

/-- One tile as a node over its items. -/
def writeTile (c : Catalogue) (p : Position) (t : Tile) : Operation Unit := do
  Session.startNode tileKind
  Session.setProps (encodeTile p t.flags)
  t.items.forM (writeItem c)
  Session.endNode

/-- A whole map as a file. -/
def writeMap (path : String) (m : TileMap) : Operation Unit := do
  let tiles := keptTiles m
  Session.createFile path
  Session.startNode worldKind
  Session.setProps (encodeHeader tiles.length)
  tiles.forM fun (p, t) => writeTile m.catalogue p t
  Session.endNode
  Session.finish

/-- **Saves a map;** the answer is the number of tiles written. -/
def save (disk : Disk) (path : String) (m : TileMap) : Except Error Nat × Disk :=
  match (Session.on disk).perform (writeMap path m) with
  | (.ok _, s) => (.ok (keptTiles m).length, s.close.disk)
  | (.error e, s) => (.error (.saveFailed path e), s.close.disk)

/-! ## §4. Loading. -/

/-- What a load came to: tiles and items kept, nodes skipped, and why. -/
structure Report where
  tiles : Nat := 0
  items : Nat := 0
  skipped : Nat := 0
  faults : List Fault := []
deriving Repr, DecidableEq

namespace Report

def keepItem (r : Report) : Report := { r with items := r.items + 1 }

def keepTile (r : Report) : Report := { r with tiles := r.tiles + 1 }

def skip (r : Report) (n : Nat) : Report := { r with skipped := r.skipped + n }

def blame (r : Report) (f : Fault) : Report :=
  { r with skipped := r.skipped + 1, faults := r.faults ++ [f] }

end Report

/-- A load on its way: the session it reads with and its report. -/
structure Loading where
  session : Session
  report : Report

/-- The items of a tile, in order.  What lies inside a container is not kept. -/
def readItems (c : Catalogue) (p : Position) :
    List Nat → List Item → Loading → Except Fault (List Item) × Loading
  | [], done, l => (.ok done.reverse, l)
  | node :: rest, done, l =>
    if l.session.nodes.kind? node ≠ some itemKind then
      readItems c p rest done { l with report := l.report.skip 1 }
    else
      match l.session.perform (Session.propsCursor node) with
      | (.error e, s) => (.error (.itemUnreadable p e), { l with session := s })
      | (.ok cursor, s) =>
        match Item.decode c cursor with
        | .error e => readItems c p rest done ⟨s, l.report.blame (.itemMalformed p e)⟩
        | .ok decoded =>
          let nested := if decoded.inside.isSome then (s.nodes.children node).length else 0
          readItems c p rest (decoded.item :: done) ⟨s, l.report.keepItem.skip nested⟩

/-- One tile. -/
def readTile (c : Catalogue) (node : Nat) (l : Loading) : Except Fault (Position × Tile) × Loading :=
  match l.session.perform (Session.propsCursor node) with
  | (.error e, s) => (.error (.tileUnreadable e), { l with session := s })
  | (.ok cursor, s) =>
    match decodeTile? cursor with
    | none => (.error .tileTruncated, { l with session := s })
    | some (p, flags) =>
      match readItems c p (s.nodes.children node) [] { l with session := s } with
      | (.error f, l) => (.error f, l)
      | (.ok items, l) => (.ok (p, { flags, items }), l)

/-- The tiles under the root, later ones over earlier ones at the same place. -/
def readTiles (c : Catalogue) : List Nat → TileMap → Loading → TileMap × Report
  | [], m, l => (m, l.report)
  | node :: rest, m, l =>
    if l.session.nodes.kind? node ≠ some tileKind then
      readTiles c rest m { l with report := l.report.skip 1 }
    else
      match readTile c node l with
      | (.ok (p, t), l) => readTiles c rest (m.setTile p t) { l with report := l.report.keepTile }
      | (.error f, l) => readTiles c rest m { l with report := l.report.blame f }

/-- **Loads a map.** -/
def load (disk : Disk) (path : String) (c : Catalogue) (caching : Bool) :
    Except Error (TileMap × Report) :=
  match (Session.on disk).perform (Session.openFile path caching) with
  | (.error e, _) => .error (.loadFailed path e)
  | (.ok _, s) =>
    match s.root with
    | none => .error (.noRoot path)
    | some root =>
      if s.nodes.kind? root ≠ some worldKind then .error (.wrongRoot path (s.nodes.kind? root))
      else
        match s.perform (Session.propsCursor root) with
        | (.error e, _) => .error (.headerUnreadable e)
        | (.ok cursor, s) =>
          let found := cursor.u16?.map Prod.fst
          if found ≠ some format then .error (.unsupportedFormat found)
          else .ok (readTiles c (s.nodes.children root) (.empty c) ⟨s, {}⟩)

end Realm.WorldFile
