/-
  Realm.NodeFile.Error — the ways in which work on a node file fails, and their wording.
-/

namespace Realm.NodeFile

/-- Why an operation on a node file was refused. -/
inductive Error
  | notOpen
  | invalidNode
  | cannotCreate
  | cannotOpen
  | invalidVersion
  | invalidFormat
  | endOfFile
  | seekFailed
  | tellFailed
  | writeFailed
  | cacheFailed
deriving Repr, DecidableEq

/-- The wording of an error. -/
def Error.message : Error → String
  | .notOpen => "file not open"
  | .invalidNode => "invalid node"
  | .cannotCreate => "can not create file"
  | .cannotOpen => "can not open file"
  | .invalidVersion => "invalid file version"
  | .invalidFormat => "invalid file format"
  | .endOfFile => "unexpected end of file"
  | .seekFailed => "seek error"
  | .tellFailed => "tell error"
  | .writeFailed => "could not write"
  | .cacheFailed => "cache error"

end Realm.NodeFile
