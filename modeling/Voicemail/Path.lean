/-!
# Paths

A path is a list of names after a root, if it has one. Empty names and single dots say nothing and
are dropped when a path is read; double dots stay until the path is resolved against a directory.
Two slashes at the start make a root of their own, three or more the usual one.
-/

namespace Voicemail

/-- What a path starts from. -/
inductive Anchor where
  | relative
  | root
  | doubleRoot
  deriving DecidableEq, Repr

/-- A path. -/
structure Path where
  anchor : Anchor
  names : List String
  deriving DecidableEq, Repr

namespace Path

/-- The parts of a text between slashes. -/
def parts : List Char → List (List Char)
  | [] => [[]]
  | '/' :: rest => [] :: parts rest
  | c :: rest =>
    match parts rest with
    | [] => [[c]]
    | p :: ps => (c :: p) :: ps

/-- The path that a text writes. -/
def ofString (s : String) : Path :=
  let anchor : Anchor := match s.toList with
    | '/' :: '/' :: '/' :: _ => .root
    | '/' :: '/' :: _ => .doubleRoot
    | '/' :: _ => .root
    | _ => .relative
  let names := (parts s.toList).filter fun p => !p.isEmpty && p ≠ ['.']
  ⟨anchor, names.map String.ofList⟩

/-- The text of a path. -/
def text (p : Path) : String :=
  let names := "/".intercalate p.names
  match p.anchor with
  | .relative => if p.names.isEmpty then "." else names
  | .root => "/" ++ names
  | .doubleRoot => "//" ++ names

/-- A path with a name added. -/
def join (p : Path) (name : String) : Path := { p with names := p.names ++ [name] }

/-- Whether a path has a character that no name can have. -/
def hasNull (p : Path) : Bool := p.names.any (·.contains '\x00')

/-- The directory that a path stands in; a root stands in itself. -/
def parent (p : Path) : Path := { p with names := p.names.dropLast }

/-- A path read from a directory: one with a root of its own is not. -/
def under (directory p : Path) : Path :=
  match p.anchor with
  | .relative => { directory with names := directory.names ++ p.names }
  | _ => p

/-- The names that are left when every double dot has undone the name before it. -/
def resolveNames (names : List String) : List String :=
  (names.foldl (fun seen n => if n = ".." then seen.tail else n :: seen) []).reverse

/-- An absolute path without double dots. -/
def resolve (p : Path) : Path := { p with names := resolveNames p.names }

end Path

end Voicemail
