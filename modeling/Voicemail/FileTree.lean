import Voicemail.Settings.Load
import Voicemail.Store.Place

/-!
# File trees

The files and directories among which a client works, as a value. A path is walked name by name from
the root, and every name before the last has to be a directory (`FileTree.walk`). Opening a store
makes the directories above it first (`makeDirectories`), then takes what stands at its place:
nothing and an empty file are a new store, and anything else than a store is refused.
-/

namespace Voicemail

/-- What a file holds. -/
inductive FileContent where
  | bytes (bs : List UInt8)
  | store (s : Store)

/-- Files and directories, each by the names that lead to it from the root. -/
structure FileTree where
  files : List (List String × FileContent)
  directories : List (List String)

/-- An open store: what it holds, where it is kept, and the files beside it. -/
structure OpenStore where
  store : Store
  place : Store.Place
  tree : FileTree

namespace FileTree

/-- What a path leads to. -/
inductive Kind where
  | directory
  | file
  | missing
  /-- A name on the way is that of a file. -/
  | barred
  /-- A name is longer than a name may be. -/
  | tooLong
  deriving DecidableEq, Repr

/-- The most bytes of a name. -/
def maxName : Nat := 255

/-- Whether there is a directory. -/
def isDirectory (t : FileTree) (names : List String) : Bool :=
  names.isEmpty || t.directories.contains names

/-- The names that lead from the root to where a path leads from a directory, and what is there.
Double dots go back from a directory. -/
def walk (t : FileTree) : List String → List String → List String × Kind
  | here, [] => (here, .directory)
  | here, n :: rest =>
    if n = ".." then t.walk here.dropLast rest
    else
      let next := here ++ [n]
      if t.isDirectory next then t.walk next rest
      else if maxName < n.utf8ByteSize then (next, .tooLong)
      else if Assoc.contains next t.files then (next, if rest.isEmpty then .file else .barred)
      else (next, .missing)

/-- The most bytes of a path. -/
def maxPath : Nat := 4095

/-- The names that lead from the root to where a path leads from a directory, and what is there. -/
def find (t : FileTree) (here p : Path) : List String × Kind :=
  if maxPath < p.text.utf8ByteSize then ([], .tooLong) else t.walk [] (here.under p).names

/-- The bytes of the file at a path from a directory, if there is one. Those of a store are nobody's
business. -/
def look (t : FileTree) (here p : Path) : Except PathFault (Option (List UInt8)) :=
  match t.find here p with
  | (names, .file) =>
    match t.files.lookup names with
    | some (.bytes bs) => .ok (some bs)
    | _ => .ok (some [])
  | (_, .tooLong) => .error .nameTooLong
  | _ => .ok none

/-- What a client finds among the files. -/
def surroundings (t : FileTree) (directory : Path) (environment : Environment) : Surroundings :=
  { directory, environment, look := t.look directory }

/-- The names of a directory and of those above it. -/
def upward (names : List String) : List (List String) :=
  (List.range (names.length + 1)).map names.take

/-- The tree of some directories and files, with all that is above them. -/
def ofParts (directories : List Path) (files : List (Path × List UInt8)) : FileTree :=
  let parents := files.map fun (p, _) => p.parent
  { files := files.map fun (p, bs) => (p.names, .bytes bs)
    directories := (directories ++ parents).flatMap fun p => upward p.names }

/-- A tree with a directory at the place to which names lead from the root. -/
def addDirectory (t : FileTree) (names : List String) : FileTree :=
  { t with directories := t.directories ++ [names] }

/-- Makes one directory. It may be there already, but what is above it has to be. -/
def makeDirectory (t : FileTree) (here p : Path) : Except Failure FileTree :=
  match t.find here p with
  | (_, .directory) => .ok t
  | (_, .file) => .error (.badPath .exists p.text)
  | (_, .barred) => .error (.badPath .notDirectory p.text)
  | (_, .tooLong) => .error (.badPath .nameTooLong p.text)
  | (names, .missing) =>
    if (t.find here p.parent).2 = .directory then .ok (t.addDirectory names)
    else .error (.badPath .missing p.text)

/-- Makes a directory, a path from `here`, and before it the directories above it that are missing.
The count bounds how many those are. What was made stays where a later one cannot be made. -/
def makeDirectories : Nat → FileTree → Path → Path → FileTree × Except Failure Unit
  | 0, t, _, _ => (t, .ok ())
  | n + 1, t, here, p =>
    match t.makeDirectory here p with
    | .ok t => (t, .ok ())
    | .error (.badPath .missing text) =>
      match makeDirectories n t here p.parent with
      | (t, .error e) => (t, .error e)
      | (t, .ok ()) =>
        match t.makeDirectory here p with
        | .ok t => (t, .ok ())
        | .error (.badPath .missing _) => (t, .error (.badPath .missing text))
        | .error e => (t, .error e)
    | .error e => (t, .error e)

/-- The most bytes of the name of a store's file, beside which files with longer names come to
stand while it is written. -/
def maxStoreName : Nat := 247

/-- The most bytes of the absolute path of a store's file. -/
def maxStorePath : Nat := 504

/-- Whether the name or the path of a store's file is longer than it may be. -/
def isStoreTooLong (p : Path) : Bool :=
  maxStoreName < (p.names.getLastD "").utf8ByteSize || maxStorePath < p.text.utf8ByteSize

/-- The store at an absolute path. -/
def storeAt (t : FileTree) (p : Path) : Except Failure Store :=
  if isStoreTooLong p then .error .unreachableStore
  else match t.find p p with
  | (names, .file) =>
    match t.files.lookup names with
    | some (.store s) => .ok s
    | some (.bytes []) => .ok .empty
    | _ => .error .notAStore
  | (_, .missing) =>
    if (t.find p p.parent).2 = .directory then .ok .empty else .error .unreachableStore
  | _ => .error .unreachableStore

/-- Keeps a store at its place. -/
def keep (t : FileTree) (s : Store) : Store.Place → FileTree
  | .memory => t
  | .file p => { t with files := Assoc.set p.names (.store s) t.files }

/-- Opens the store that a path names from a directory; the directories made for it stay even where
it cannot be opened. -/
def openStore (t : FileTree) (here p : Path) : FileTree × Except Failure OpenStore :=
  if p.hasNull then (t, .error .nullInPath)
  else
    match makeDirectories (p.names.length + 1) t here p.parent with
    | (t, .error e) => (t, .error e)
    | (t, .ok ()) =>
      match Store.Place.ofPath here p with
      | .memory => (t, .ok ⟨.empty, .memory, t⟩)
      | .file place =>
        match t.storeAt place with
        | .error e => (t, .error e)
        | .ok s =>
          let t := t.keep s (.file place)
          (t, .ok ⟨s, .file place, t⟩)

end FileTree

end Voicemail
