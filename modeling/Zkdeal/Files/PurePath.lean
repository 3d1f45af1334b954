import Zkdeal.Files.Disk
import Zkdeal.Python.Url

/-!
# Paths of `pathlib`
-/

namespace Files

open Python

/-- A `pathlib` path. -/
structure PurePath where
  absolute : Bool
  parts : List String

/-- `Path(s)` -/
def pathOf (s : String) : PurePath where
  absolute := s.toList.head? = some '/'
  parts := (components s).filter fun name => name ≠ "" && name ≠ "."

/-- `relative.as_posix()` for a relative path -/
def PurePath.asPosix (p : PurePath) : String := if p.parts.isEmpty then "." else String.intercalate "/" p.parts

/-- The path leaves what it is relative to by its own text. -/
def PurePath.isUnsafe (p : PurePath) : Bool := p.absolute || p.parts.contains ".."

/-- `relative.suffix.lower()` -/
def PurePath.lowerSuffix (p : PurePath) : List Char :=
  match rpartition '.' (p.parts.getLast?.getD "").toList with
  | (some before, after) => if before.isEmpty || after.isEmpty then [] else lower ('.' :: after)
  | _ => []

end Files
