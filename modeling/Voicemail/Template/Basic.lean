import Voicemail.Template.Subject

/-!
# Command templates

A template is text with fields in braces: `\x7bname\x7d` stands for a named parameter, a doubled
brace for one brace. `pieces` takes a template apart, and a piece that says what is wrong with the
rest ends the list where the template is malformed. `render` goes through the pieces in order, so
of two things that are wrong the first one is reported, and a parameter's text is put in as it is,
never read as template text again.
-/

namespace Voicemail.Template

/-- A field of a template. -/
structure Field where
  /-- What stands before the conversion and the specification. -/
  name : List Char
  /-- The letter after the exclamation mark. -/
  conversion : Option Char
  /-- What stands after the colon. -/
  spec : List Char
  deriving DecidableEq, Repr

/-- A piece of a template. -/
inductive Piece where
  | char (c : Char)
  | field (f : Field)
  | malformed (e : Error)
  deriving DecidableEq, Repr

/-- A field's name up to the character that ends it, that character, and what follows. Nothing
ends a name inside square brackets. -/
def readName : Bool → List Char → Except Error (List Char × Char × List Char)
  | _, [] => .error .unclosedField
  | inBrackets, c :: rest =>
    let further (inBrackets : Bool) := do
      let (name, stop, rest) ← readName inBrackets rest
      return (c :: name, stop, rest)
    if inBrackets then further (c ≠ ']')
    else if c = '\x7b' then .error .openingInName
    else if c = '\x7d' || c = ':' || c = '!' then .ok ([], c, rest)
    else further (c = '[')

/-- A specification up to the brace that closes its field, with `depth` braces open inside it, and
what follows that brace. -/
def readSpec : Nat → List Char → Except Error (List Char × List Char)
  | _, [] => .error .unclosedSpecification
  | depth, c :: rest =>
    let further (depth : Nat) := do
      let (spec, rest) ← readSpec depth rest
      return (c :: spec, rest)
    if c = '\x7b' then further (depth + 1)
    else if c = '\x7d' then
      match depth with
      | 0 => .ok ([], rest)
      | depth + 1 => further depth
    else further depth

/-- A field after its opening brace, and what follows its closing brace. -/
def readField (s : List Char) : Except Error (Field × List Char) := do
  let (name, stop, rest) ← readName false s
  if stop = '\x7d' then return (⟨name, none, []⟩, rest)
  else if stop = ':' then
    let (spec, rest) ← readSpec 0 rest
    return (⟨name, none, spec⟩, rest)
  else match rest with
    | [] => throw .missingConversion
    | [_] => throw .unclosedSpecification
    | c :: '\x7d' :: rest => return (⟨name, some c, []⟩, rest)
    | c :: ':' :: rest =>
      let (spec, rest) ← readSpec 0 rest
      return (⟨name, some c, spec⟩, rest)
    | _ => throw .afterConversion

/-- The pieces of a template, with at most as many as the fuel. -/
def piecesAux : Nat → List Char → List Piece
  | 0, _ => []
  | _ + 1, [] => []
  | fuel + 1, '\x7b' :: rest =>
    match rest with
    | [] => [.malformed .loneOpening]
    | '\x7b' :: rest => .char '\x7b' :: piecesAux fuel rest
    | _ =>
      match readField rest with
      | .ok (f, rest) => .field f :: piecesAux fuel rest
      | .error e => [.malformed e]
  | fuel + 1, '\x7d' :: rest =>
    match rest with
    | '\x7d' :: rest => .char '\x7d' :: piecesAux fuel rest
    | _ => [.malformed .loneClosing]
  | fuel + 1, c :: rest => .char c :: piecesAux fuel rest

/-- The pieces of a template. -/
def pieces (s : List Char) : List Piece := piecesAux s.length s

/-- The number that a name or a bracketed index writes. -/
def index? (name : List Char) : Except Error (Option Nat) := do
  match ← readCount name with
  | (some n, []) => return some n
  | _ => return none

/-- Follows the members and indices after a parameter's name. -/
def access : Nat → Subject → List Char → Except Error Subject
  | 0, s, _ | _, s, [] => .ok s
  | fuel + 1, s, '.' :: rest => do
    let name := rest.takeWhile fun c => c ≠ '.' && c ≠ '['
    if name.isEmpty then throw .emptyMember
    let s ← s.member (String.ofList name)
    access fuel s (rest.drop name.length)
  | fuel + 1, s, '[' :: rest => do
    let name := rest.takeWhile (· ≠ ']')
    match rest.drop name.length with
    | [] => throw .missingBracket
    | _ :: rest =>
      if name.isEmpty then throw .emptyMember
      let s ← s.item name (← index? name)
      access fuel s rest
  | _ + 1, _, _ => .error .afterBracket

/-- What a field names. -/
def resolve (params : List (String × Json)) (name : List Char) : Except Error Subject := do
  let first := name.takeWhile fun c => c ≠ '.' && c ≠ '['
  let rest := name.drop first.length
  if first.isEmpty then throw (.numberedParameter 0)
  match ← index? first with
  | some n => throw (.numberedParameter n)
  | none =>
    match params.lookup (String.ofList first) with
    | none => throw (.missingParameter (String.ofList first))
    | some v => access rest.length (.value v) rest

/-- The text of a template with parameters put in. A specification may hold fields of its own, and
those of theirs, down to `depth` levels. -/
def renderTo : Nat → List (String × Json) → List Char → Except Error (List Char)
  | 0, _, _ => .error .nestedTooDeep
  | depth + 1, params, s =>
    go params (renderTo depth params) (pieces s)
where
  /-- The text of pieces, with `nested` for a specification that holds fields. -/
  go (params : List (String × Json)) (nested : List Char → Except Error (List Char)) :
      List Piece → Except Error (List Char)
    | [] => .ok []
    | .malformed e :: _ => .error e
    | .char c :: rest => do return c :: (← go params nested rest)
    | .field f :: rest => do
      let subject ← (← resolve params f.name).convert f.conversion
      let spec ← if f.spec.contains '\x7b' then nested f.spec else pure f.spec
      let text ← subject.format spec
      return text ++ (← go params nested rest)

/-- The text of a template with parameters put in. -/
def render (template : String) (params : List (String × Json)) : Except Error String :=
  (renderTo 2 params template.toList).map String.ofList

end Voicemail.Template
