import Voicemail.Assoc
import Voicemail.Toml.Scalar
import Voicemail.Toml.Text

/-!
# Reading configuration documents

A document is a list of statements, one to a line: a key with its value, the header of a table, or
the header of an item of a list of tables. Keys open the tables they go through. A table can be
declared once, a value set once, and what is written inline is closed.
-/

namespace Voicemail.Toml

/-- What may no longer be done to the tables of a document. -/
structure Marks where
  /-- The tables that were declared. -/
  declared : List Key := []
  /-- The keys of values that are closed with all they hold. -/
  closed : List Key := []
  /-- The tables that count as declared from the next header on. -/
  pending : List Key := []

namespace Marks

/-- Whether a table was declared. -/
def isDeclared (m : Marks) (k : Key) : Bool := m.declared.contains k

/-- Whether a key lies in a closed value. -/
def isClosed (m : Marks) (k : Key) : Bool := m.closed.any (·.isPrefixOf k)

/-- Makes the pending tables declared ones. -/
def settle (m : Marks) : Marks :=
  { m with declared := m.declared ++ m.pending, pending := [] }

/-- Forgets what is known of a key and of all below it. -/
def forget (m : Marks) (k : Key) : Marks :=
  { m with
    declared := m.declared.filter (!k.isPrefixOf ·)
    closed := m.closed.filter (!k.isPrefixOf ·) }

end Marks

/-- The items of a list with its last table changed. -/
def changeLast (f : Table → Option Table) : List Value → Option (List Value)
  | [] => none
  | [.table t] => (f t).map fun t => [.table t]
  | [_] => none
  | v :: vs => (changeLast f vs).map (v :: ·)

/-- Changes the table at a key, and makes the tables on the way that are missing. The way leads
through the last item of a list, where that is allowed; any other value bars it. -/
def change (throughLists : Bool) : Key → (Table → Option Table) → Table → Option Table
  | [], f, t => f t
  | k :: ks, f, t =>
    match t.lookup k with
    | none => (change throughLists ks f []).map fun sub => Assoc.set k (.table sub) t
    | some (.table sub) =>
      (change throughLists ks f sub).map fun sub => Assoc.set k (.table sub) t
    | some (.arr vs) =>
      if throughLists then
        (changeLast (change throughLists ks f) vs).map fun vs => Assoc.set k (.arr vs) t
      else none
    | some _ => none

/-- Sets a key of a table that does not have it. -/
def setNew (k : String) (v : Value) (t : Table) : Option Table :=
  if Assoc.contains k t then none else some (t ++ [(k, v)])

/-- Adds an empty table to the list under a key. -/
def addItem (k : String) (t : Table) : Option Table :=
  match t.lookup k with
  | none => some (t ++ [(k, .arr [.table []])])
  | some (.arr vs) => some (Assoc.set k (.arr (vs ++ [.table []])) t)
  | some _ => none

/-- The table to which a key belongs, and its last part. -/
def splitKey (k : Key) : Key × String := (k.dropLast, k.getLastD "")

/-- A key up to the equals sign, which has to follow. -/
def keyOfPair (s : List Char) : Except Fault (Key × List Char) := do
  match ← key (s.length + 1) s with
  | (k, '=' :: rest) => return (k, skipBlanks rest)
  | (_, rest) => fail .expectedEquals rest

/-- Puts a value into an inline table. -/
def putInline (closed : List Key) (k : Key) (v : Value) (t : Table) (rest : List Char) :
    Except Fault Table :=
  let (parent, last) := splitKey k
  if ({ closed } : Marks).isClosed k then fail (.immutable k) rest
  else match change false parent some t with
    | none => fail .overwrite rest
    | some t =>
      match change false parent (setNew last v) t with
      | none => fail (.duplicateKey last) rest
      | some t => .ok t

/-- How much room there is for values in other values. -/
def maxRoom : Nat := 985

/-- The room that is left in an array, which takes two parts of it. -/
def roomInArray (room : Nat) (rest : List Char) : Except Fault Nat :=
  if room < 2 then fail .tooDeep rest else .ok (room - 2)

/-- The room that is left in an inline table, which takes three parts of it. -/
def roomInTable (room : Nat) (rest : List Char) : Except Fault Nat :=
  if room < 3 then fail .tooDeep rest else .ok (room - 3)

mutual
/-- A value at the start of a text, in what room there is. The count bounds how far values nest and
go on. -/
def value : Nat → Nat → List Char → Except Fault (Value × List Char)
  | 0, _, s => fail .invalidValue s
  | n + 1, room, s =>
    match s with
    | '"' :: '"' :: '"' :: rest => (basicLines rest).map fun (cs, s) => (.str (String.ofList cs), s)
    | '"' :: rest => (lineString rest).map fun (cs, s) => (.str (String.ofList cs), s)
    | '\'' :: '\'' :: '\'' :: rest =>
      (literalLines rest).map fun (cs, s) => (.str (String.ofList cs), s)
    | '\'' :: rest => (literalString rest).map fun (cs, s) => (.str (String.ofList cs), s)
    | 't' :: 'r' :: 'u' :: 'e' :: rest => .ok (.bool true, rest)
    | 'f' :: 'a' :: 'l' :: 's' :: 'e' :: rest => .ok (.bool false, rest)
    | '[' :: rest => do
      let room ← roomInArray room rest
      let (vs, s) ← arrayItems n room (← skipLines (rest.length + 1) rest)
      return (.arr vs, s)
    | '\x7b' :: rest => do
      let room ← roomInTable room rest
      match skipBlanks rest with
      | '\x7d' :: s => return (.table [], s)
      | s =>
        let (t, s) ← inlineMembers n room [] [] s
        return (.table t, s)
    | s => scalar s

/-- The items of an array up to its end, from where an item or the end stands. -/
def arrayItems : Nat → Nat → List Char → Except Fault (List Value × List Char)
  | 0, _, s => fail .unclosedArray s
  | n + 1, room, s =>
    match s with
    | ']' :: rest => .ok ([], rest)
    | s => do
      let (v, rest) ← value n room s
      match ← skipLines (rest.length + 1) rest with
      | ']' :: rest => return ([v], rest)
      | ',' :: rest => do
        let (vs, s) ← arrayItems n room (← skipLines (rest.length + 1) rest)
        return (v :: vs, s)
      | rest => fail .unclosedArray rest

/-- The members of an inline table up to its end, from where a member stands. -/
def inlineMembers : Nat → Nat → List Key → Table → List Char → Except Fault (Table × List Char)
  | 0, _, _, _, s => fail .unclosedTable s
  | n + 1, room, closed, t, s => do
    let (k, rest) ← keyOfPair s
    let (v, rest) ← value n room rest
    let t ← putInline closed k v t rest
    match skipBlanks rest with
    | '\x7d' :: rest => return (t, rest)
    | ',' :: rest =>
      inlineMembers n room (if v.isComposite then k :: closed else closed) t (skipBlanks rest)
    | rest => fail .unclosedTable rest
end

/-- A document while it is read. -/
structure Document where
  root : Table := []
  marks : Marks := {}
  /-- The table that the last header opened. -/
  header : Key := []

namespace Document

/-- Marks the tables that a dotted key goes through, none of which may have been declared. -/
def passThrough (rest : List Char) (header : Key) : List Key → Marks → Except Fault Marks
  | [], m => .ok m
  | way :: ways, m =>
    let k := header ++ way
    if m.isDeclared k then fail (.redefined k) rest
    else passThrough rest header ways { m with pending := m.pending ++ [k] }

/-- The starts of a key, shortest first, without the empty one and the whole. -/
def ways (k : Key) : List Key := (List.range (k.length - 1)).map fun i => k.take (i + 1)

/-- Sets a key under the last header. -/
def set (d : Document) (k : Key) (v : Value) (rest : List Char) : Except Fault Document := do
  let (parent, last) := splitKey k
  let parent := d.header ++ parent
  let marks ← passThrough rest d.header (ways k) d.marks
  if marks.isClosed parent then fail (.immutable parent) rest
  else match change true parent (setNew last v) d.root with
    | none => fail .overwrite rest
    | some root =>
      let marks :=
        if v.isComposite then { marks with closed := (d.header ++ k) :: marks.closed } else marks
      return { d with root, marks }

/-- Opens a table by its header. -/
def openTable (d : Document) (k : Key) (rest : List Char) : Except Fault Document :=
  let marks := d.marks.settle
  if marks.isDeclared k || marks.isClosed k then fail (.declaredTwice k) rest
  else match change true k some d.root with
    | none => fail .overwrite rest
    | some root => .ok ⟨root, { marks with declared := k :: marks.declared }, k⟩

/-- Opens a new item of a list of tables by its header. -/
def openItem (d : Document) (k : Key) (rest : List Char) : Except Fault Document :=
  let marks := d.marks.settle
  let (parent, last) := splitKey k
  if marks.isClosed k then fail (.immutable k) rest
  else
    let marks := marks.forget k
    match change true parent (addItem last) d.root with
    | none => fail .overwrite rest
    | some root => .ok ⟨root, { marks with declared := k :: marks.declared }, k⟩

/-- Reads a header. -/
def readHeader (d : Document) : List Char → Except Fault (Document × List Char)
  | '[' :: s => do
    let s := skipBlanks s
    let (k, rest) ← key (s.length + 1) s
    let d ← d.openItem k rest
    match rest with
    | ']' :: ']' :: rest => return (d, rest)
    | rest => fail .unclosedListHeader rest
  | s => do
    let s := skipBlanks s
    let (k, rest) ← key (s.length + 1) s
    let d ← d.openTable k rest
    match rest with
    | ']' :: rest => return (d, rest)
    | rest => fail .unclosedHeader rest

/-- Reads a statement, if one stands before the comment or the end of a line. -/
def readStatement (d : Document) (s : List Char) : Except Fault (Document × List Char) :=
  match s with
  | [] => .ok (d, [])
  | c :: rest =>
    if isBareKey c || c = '"' || c = '\'' then do
      let (k, rest) ← keyOfPair s
      let (v, rest) ← value (2 * rest.length + 2) maxRoom rest
      let d ← d.set k v rest
      return (d, skipBlanks rest)
    else if c = '[' then do
      let (d, rest) ← d.readHeader rest
      return (d, skipBlanks rest)
    else if c = '#' || c = '\n' then .ok (d, s)
    else fail .invalidStatement s

/-- Reads statements line by line to the end. -/
def readLines : Nat → Document → List Char → Except Fault Document
  | 0, d, _ => .ok d
  | n + 1, d, s => do
    let (d, rest) ← d.readStatement (skipBlanks s)
    match ← skipComment rest with
    | [] => return d
    | '\n' :: rest => readLines n d rest
    | rest => fail .expectedNewline rest

end Document

/-- The document that a text writes, or what is wrong with the text. -/
def read (text : List Char) : Except Fault Table :=
  (Document.readLines (text.length + 1) {} text).map (·.root)

end Voicemail.Toml
