import Voicemail.Text.Character
import Voicemail.Toml.Fault

/-!
# Keys, strings and blanks of configuration documents

Basic strings have escapes and literal strings have none; both come on one line or, between three
quotes, on several. A backslash at the end of a line of a basic string takes the line break and the
blanks after it away.
-/

namespace Voicemail.Toml

/-- Blanks within a line. -/
def isBlank (c : Char) : Bool := c = ' ' || c = '\t'

/-- Blanks and line breaks. -/
def isBlankOrNewline (c : Char) : Bool := isBlank c || c = '\n'

/-- The control characters that may not stand in a comment or on a line of a string. -/
def isControl (c : Char) : Bool := (c < ' ' && c ≠ '\t') || c = '\x7f'

/-- The control characters that may not stand in a string of several lines. -/
def isControlOrNewline (multiline : Bool) (c : Char) : Bool :=
  isControl c && !(multiline && c = '\n')

/-- The characters of a key without quotes. -/
def isBareKey (c : Char) : Bool := c.isAlphanum || c = '-' || c = '_'

/-- A text without the blanks at its start. -/
def skipBlanks (s : List Char) : List Char := s.dropWhile isBlank

/-- The text up to an end mark and what follows it. No character before the mark may be illegal. -/
def takeUntil (mark : List Char) (illegal : Char → Bool) (s : List Char) :
    Except Fault (List Char × List Char) :=
  match split? s with
  | none => fail (.expected (String.ofList mark)) []
  | some (before, rest) =>
    match before.dropWhile (!illegal ·) with
    | [] => .ok (before, rest)
    | c :: after => fail (.invalidCharacter c) (c :: after ++ mark ++ rest)
where
  /-- The text before the first mark and the text after it. -/
  split? : List Char → Option (List Char × List Char)
    | [] => if mark.isEmpty then some ([], []) else none
    | c :: rest =>
      if mark.isPrefixOf (c :: rest) then some ([], (c :: rest).drop mark.length)
      else (split? rest).map fun (before, after) => (c :: before, after)

/-- A text after a comment, if one starts here. -/
def skipComment : List Char → Except Fault (List Char)
  | '#' :: s =>
    let comment := s.takeWhile (· ≠ '\n')
    match comment.dropWhile (!isControl ·) with
    | [] => .ok (s.drop comment.length)
    | c :: after => fail (.invalidCharacter c) (c :: after ++ s.drop comment.length)
  | s => .ok s

/-- A text after blanks, line breaks and comments. -/
def skipLines : Nat → List Char → Except Fault (List Char)
  | 0, s => .ok s
  | n + 1, s => do
    let t ← skipComment (s.dropWhile isBlankOrNewline)
    if t.length = s.length then return t else skipLines n t

/-- A character by the hexadecimal digits of its code point. -/
def hexCharacter (digits : Nat) (s : List Char) : Except Fault (List Char × List Char) :=
  let hex := s.take digits
  match hex.mapM Text.hexadecimal? with
  | none => fail .invalidHex s
  | some values =>
    if values.length ≠ digits then fail .invalidHex s
    else
      let rest := s.drop digits
      let n := values.foldl (fun n d => 16 * n + d) 0
      if n < 0xd800 || (0xe000 ≤ n && n < 0x110000) then .ok ([Char.ofNat n], rest)
      else fail .notScalar rest

/-- What an escape stands for, read after its backslash. -/
def escape (multiline : Bool) : List Char → Except Fault (List Char × List Char)
  | 'b' :: s => .ok (['\x08'], s)
  | 't' :: s => .ok (['\t'], s)
  | 'n' :: s => .ok (['\n'], s)
  | 'f' :: s => .ok (['\x0c'], s)
  | 'r' :: s => .ok (['\r'], s)
  | '"' :: s => .ok (['"'], s)
  | '\\' :: s => .ok (['\\'], s)
  | 'u' :: s => hexCharacter 4 s
  | 'U' :: s => hexCharacter 8 s
  | c :: s =>
    if multiline && isBlankOrNewline c then
      if c = '\n' then .ok ([], s.dropWhile isBlankOrNewline)
      else match skipBlanks s with
        | [] => .ok ([], [])
        | '\n' :: s => .ok ([], s.dropWhile isBlankOrNewline)
        | s => fail .unescapedBackslash s
    else fail .unescapedBackslash s
  | [] => fail .unescapedBackslash []

/-- The rest of a basic string after its opening quotes. -/
def basicString (multiline : Bool) : Nat → List Char → Except Fault (List Char × List Char)
  | 0, s => fail .unterminated s
  | _, [] => fail .unterminated []
  | n + 1, c :: s =>
    if c = '"' then
      if !multiline then .ok ([], s)
      else match s with
        | '"' :: '"' :: s => .ok ([], s)
        | _ => do
          let (cs, rest) ← basicString multiline n s
          return (c :: cs, rest)
    else if c = '\\' then do
      let (cs, s) ← escape multiline s
      let (ds, rest) ← basicString multiline n s
      return (cs ++ ds, rest)
    else if isControlOrNewline multiline c then fail (.illegalCharacter c) (c :: s)
    else do
      let (cs, rest) ← basicString multiline n s
      return (c :: cs, rest)

/-- A basic string on one line, after its quote. -/
def lineString (s : List Char) : Except Fault (List Char × List Char) :=
  basicString false (s.length + 1) s

/-- A literal string on one line, after its quote. -/
def literalString (s : List Char) : Except Fault (List Char × List Char) :=
  takeUntil ['\''] isControl s

/-- Up to two quotes that follow the closing three belong to the string. -/
def extraQuotes (quote : Char) (cs : List Char) : List Char → List Char × List Char
  | a :: b :: s =>
    if a = quote then
      if b = quote then (cs ++ [quote, quote], s) else (cs ++ [quote], b :: s)
    else (cs, a :: b :: s)
  | [a] => if a = quote then (cs ++ [quote], []) else (cs, [a])
  | [] => (cs, [])

/-- A text without a line break at its start. -/
def dropNewline : List Char → List Char
  | '\n' :: s => s
  | s => s

/-- A basic string of several lines, after its quotes. -/
def basicLines (s : List Char) : Except Fault (List Char × List Char) := do
  let s := dropNewline s
  let (cs, rest) ← basicString true (s.length + 1) s
  return extraQuotes '"' cs rest

/-- A literal string of several lines, after its quotes. -/
def literalLines (s : List Char) : Except Fault (List Char × List Char) := do
  let (cs, rest) ← takeUntil ['\'', '\'', '\''] (isControlOrNewline true) (dropNewline s)
  return extraQuotes '\'' cs rest

/-- A part of a key. -/
def keyPart : List Char → Except Fault (String × List Char)
  | '\'' :: s => do
    let (cs, rest) ← literalString s
    return (String.ofList cs, rest)
  | '"' :: s => do
    let (cs, rest) ← lineString s
    return (String.ofList cs, rest)
  | s =>
    let (cs, rest) := s.span isBareKey
    if cs.isEmpty then fail .keyStart s else .ok (String.ofList cs, rest)

/-- A dotted key, and the rest after blanks. -/
def key : Nat → List Char → Except Fault (Key × List Char)
  | 0, s => fail .keyStart s
  | n + 1, s => do
    let (k, rest) ← keyPart s
    match skipBlanks rest with
    | '.' :: rest => do
      let (ks, rest) ← key n (skipBlanks rest)
      return (k :: ks, rest)
    | rest => return ([k], rest)

end Voicemail.Toml
