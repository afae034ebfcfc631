import Voicemail.Path
import Voicemail.Store

/-!
# Places of stores

A store is kept in a file, or only in memory for as long as it is open. The path that the settings
give says which: what follows a question mark in it is no part of the place, and one name stands
for memory.
-/

namespace Voicemail.Store

/-- Where a store is kept. -/
inductive Place where
  | memory
  /-- A file at an absolute path without double dots. -/
  | file (p : Path)
  deriving DecidableEq, Repr

namespace Place

/-- The name that stands for memory. -/
def memoryName : String := ":memory:"

/-- The part of a path that names a place. -/
def namePart (p : Path) : String := String.ofList (p.text.toList.takeWhile (· ≠ '?'))

/-- The place that a path names from a directory. -/
def ofPath (directory p : Path) : Place :=
  let name := namePart p
  if name.isEmpty || name = memoryName then .memory
  else .file (directory.under (.ofString name)).resolve

end Place

end Voicemail.Store
