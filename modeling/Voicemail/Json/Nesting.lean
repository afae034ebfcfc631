import Voicemail.Json.Reader

/-!
# Documents that nest too deep

A document is refused once it opens more containers, one in another, than its reader can hold. It
is refused where the first container too many opens, and only if it is well-formed up to there:
`Json.tooDeep?` reads what stands before, with an empty text in the place of the container and with
all that is open closed.
-/

namespace Voicemail.Json

/-- What holds other values. -/
inductive Container where
  | array
  | object
  deriving DecidableEq, Repr

namespace Container

/-- The name of a container. -/
def name : Container → String
  | .array => "array"
  | .object => "object"

/-- What closes a container. -/
def closing : Container → Char
  | .array => ']'
  | .object => '\x7d'

/-- The container that a character opens. -/
def ofOpening? (c : Char) : Option Container :=
  if c = '[' then some .array else if c = '\x7b' then some .object else none

end Container

/-- How many containers may be open at a time. -/
def maxOpen : Nat := 985

/-- Where in a document a character stands. -/
inductive Place where
  | between
  | inText
  | escaped

/-- The first container that opens while as many others are open as there is room for: how many
characters stand before it, what is open, innermost first, and the container. -/
def crossing? : Place → Nat → Nat → List Container → List Char →
    Option (Nat × List Container × Container)
  | _, _, _, _, [] => none
  | .escaped, before, room, opened, _ :: s => crossing? .inText (before + 1) room opened s
  | .inText, before, room, opened, c :: s =>
    let place := if c = '\\' then .escaped else if c = '"' then .between else .inText
    crossing? place (before + 1) room opened s
  | .between, before, room, opened, c :: s =>
    match Container.ofOpening? c, room with
    | some k, 0 => some (before, opened, k)
    | some k, room + 1 => crossing? .between (before + 1) room (k :: opened) s
    | none, room =>
      if c = ']' || c = '\x7d' then
        crossing? .between (before + 1) (room + 1) opened.tail s
      else crossing? (if c = '"' then .inText else .between) (before + 1) room opened s

/-- The container for which there is no room, if a reader comes as far as that. -/
def tooDeep? (s : List Char) : Option Container :=
  match crossing? .between 0 maxOpen [] s with
  | none => none
  | some (before, opened, k) =>
    let closed := s.take before ++ '"' :: '"' :: opened.map Container.closing
    if (readChars? true closed).isSome then some k else none

end Voicemail.Json
