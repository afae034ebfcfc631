import Voicemail.Template.Kind
import Voicemail.Template.Spec

/-!
# What a template reaches

A `Subject` is what a field of a template can stand for: a value, or something that is reached from
one by members. `Subject.member` follows a point, `Subject.item` a bracketed name, and
`Subject.format` sets a subject by a specification, which only values take.
-/

namespace Voicemail.Template

/-- What a field of a template stands for. -/
inductive Subject where
  | value (v : Json)
  | kind (k : Kind)
  | kinds (ks : List Kind)
  /-- A kind with an argument in brackets. -/
  | applied (k : Kind) (argument : Json)
  /-- A method of a subject. -/
  | function (owner : Subject) (name : String)
  /-- An operator of a subject, held by a kind. -/
  | wrapper (owner : Subject) (holder : Kind) (name : String)
  /-- A member as its kind holds it. -/
  | definition (role : Role) (holder : Kind) (name : String)

namespace Subject

/-- The kind of what shows a member as its kind holds it. -/
def ofRole : Role → Kind
  | .slot => .slot
  | .method => .method
  | .typeMethod => .typeMethod
  | .stored => .stored
  | _ => .computed

/-- The kind of a subject. -/
def kindOf : Subject → Kind
  | .value v => .ofValue v
  | .kind _ | .applied _ _ => .type
  | .kinds _ => .tuple
  | .function _ _ => .function
  | .wrapper _ _ _ => .wrapper
  | .definition role _ _ => ofRole role

/-- The name of a subject's kind, as messages give it. -/
def typeName : Subject → String
  | .applied _ _ => "types.GenericAlias"
  | s => s.kindOf.name

/-- A list of kinds between parentheses. -/
def inspectKinds : List Kind → String
  | [k] => "(" ++ k.inspect ++ ",)"
  | ks => "(" ++ ", ".intercalate (ks.map Kind.inspect) ++ ")"

/-- How a subject reads, with `ofValue` for a value. -/
def textBy (ofValue : Json → String) : Subject → String
  | .value v => ofValue v
  | .kind k => k.inspect
  | .kinds ks => inspectKinds ks
  | .applied k v => k.name ++ "[" ++ v.inspect ++ "]"
  | .function owner name => "<built-in method " ++ name ++ " of " ++ owner.typeName ++ " object>"
  | .wrapper owner _ name => "<method-wrapper '" ++ name ++ "' of " ++ owner.typeName ++ " object>"
  | .definition role k name =>
    let noun := match role with
      | .slot => "slot wrapper"
      | .method | .typeMethod => "method"
      | .stored => "member"
      | _ => "attribute"
    "<" ++ noun ++ " '" ++ name ++ "' of '" ++ k.name ++ "' objects>"

/-- A subject with the members of its kind as the kind itself holds them: methods, operators and
functions. -/
def bind (s : Subject) (holder : Kind) (role : Role) (name : String) : Subject :=
  match role with
  | .slot => .wrapper s holder name
  | .method => .function s name
  | .typeMethod => .function (.kind s.kindOf) name
  | .function => .function (.kind holder) name
  | .description => .value (.ofString? holder.info.doc)
  | _ => .value .null

/-- A part of a number. -/
def part (v : Json) (name : String) : Subject :=
  let n : Json := match v with
    | .bool b => .int (if b then 1 else 0)
    | v => v
  .value <| match name with
    | "imag" => match n with
      | .float _ => .float (.finite false 0 0)
      | _ => .int 0
    | "denominator" => .int 1
    | _ => n

/-- What a kind says about itself. -/
def trait (k : Kind) (name : String) : Except Error Subject :=
  let i := k.info
  match name with
  | "__name__" | "__qualname__" => .ok (.value (.str i.name))
  | "__module__" => .ok (.value (.str "builtins"))
  | "__bases__" => .ok (.kinds k.base?.toList)
  | "__base__" => .ok ((k.base?.map Subject.kind).getD (.value .null))
  | "__mro__" => .ok (.kinds k.lineage)
  | "__doc__" =>
    .ok (if i.computed.contains "__doc__" && k ≠ .type then .definition .computed k "__doc__"
      else .value (.ofString? i.doc))
  | "__text_signature__" => .ok (.value (.ofString? i.signature))
  | "__basicsize__" => .ok (.value (.int i.basicSize))
  | "__itemsize__" => .ok (.value (.int i.itemSize))
  | "__flags__" => .ok (.value (.int i.flags))
  | "__dictoffset__" => .ok (.value (.int i.dictOffset))
  | "__weakrefoffset__" => .ok (.value (.int i.weakOffset))
  | "__abstractmethods__" => .error (.withheldMember name)
  | _ => .error (.unknownTrait i.name name)

/-- What a method, an operator or a held member says about itself: its name, its name with that of
the kind before it, what it works on and the kind that holds it. -/
def label (s : Subject) (name : String) : Subject :=
  let qualified (k : Kind) (member : String) : Subject := .value (.str (k.name ++ "." ++ member))
  match s, name with
  | .function _ n, "__name__" | .wrapper _ _ n, "__name__" | .definition _ _ n, "__name__" =>
    .value (.str n)
  | .function (.kind k) n, "__qualname__" => qualified k n
  | .function owner n, "__qualname__" => qualified owner.kindOf n
  | .wrapper _ k n, "__qualname__" | .definition _ k n, "__qualname__" => qualified k n
  | .function owner _, "__self__" | .wrapper owner _ _, "__self__" => owner
  | .wrapper _ k _, "__objclass__" | .definition _ k _, "__objclass__" => .kind k
  | _, _ => .value .null

/-- The member of a subject that is computed or stored. -/
def computed (s : Subject) (name : String) : Except Error Subject :=
  match s with
  | .kind k => trait k name
  | .value v => .ok (part v name)
  | s => .ok (label s name)

/-- A member of a kind: what it says about itself, then what it holds, then what it can do as a
kind. -/
def kindMember (k : Kind) (name : String) : Except Error Subject :=
  let own := Kind.type.info
  if own.computed.contains name || own.stored.contains name then trait k name
  else if name = "__class__" then .ok (.kind .type)
  else match k.find? name with
  | some (holder, .slot) => .ok (.definition .slot holder name)
  | some (holder, .method) => .ok (.definition .method holder name)
  | some (holder, .computed) => .ok (.definition .computed holder name)
  | some (holder, .stored) => .ok (.definition .stored holder name)
  | some (_, .typeMethod) => .ok (.function (.kind k) name)
  | some (holder, role) => .ok ((Subject.kind k).bind holder role name)
  | none =>
    match Kind.type.find? name with
    | some (holder, role) => .ok ((Subject.kind k).bind holder role name)
    | none => .error (.unknownTrait k.name name)

/-- The member of a subject under a name. -/
def member (s : Subject) (name : String) : Except Error Subject :=
  match s with
  | .kind k => kindMember k name
  | .applied k _ => if name = "__origin__" then .ok (.kind k) else kindMember k name
  | s =>
    if name = "__class__" then .ok (.kind s.kindOf)
    else match s.kindOf.find? name with
    | some (_, .computed) | some (_, .stored) => s.computed name
    | some (holder, role) => .ok (s.bind holder role name)
    | none => .error (.unknownMember s.typeName name)

/-- The part of a value at a bracketed name, which is an index if it writes a number. -/
def itemOfValue (v : Json) (name : List Char) (index : Option Nat) : Except Error Json :=
  match v, index with
  | .str s, some i => found (s.toList[i]?.map fun c => Json.str c.toString) (.indexRange "string")
  | .str _, none => .error .textIndexType
  | .arr xs, some i => found xs[i]? (.indexRange "list")
  | .arr _, none => .error (.listIndexType "list")
  | .obj _, some i => .error (.missingNumber i)
  | .obj ms, none =>
    let key := String.ofList name
    found (ms.lookup key) (.missingParameter key)
  | v, _ => .error (.notSubscriptable v.typeName)
where
  found (v? : Option Json) (e : Error) : Except Error Json :=
    match v? with
    | some v => .ok v
    | none => .error e

/-- The part of a subject at a bracketed name, which is an index if it writes a number. -/
def item (s : Subject) (name : List Char) (index : Option Nat) : Except Error Subject :=
  match s, index with
  | .value v, _ => (itemOfValue v name index).map .value
  | .kinds ks, some i =>
    match ks[i]? with
    | some k => .ok (.kind k)
    | none => .error (.indexRange "tuple")
  | .kinds _, none => .error (.listIndexType "tuple")
  | .kind k, _ =>
    if k = .type || k.info.typeMethods.contains "__class_getitem__" then
      .ok (.applied k ((index.map fun i => Json.int i).getD (.str (String.ofList name))))
    else .error (.kindNotSubscriptable k.name)
  | .applied k v, _ => .error (.notGeneric (k.name ++ "[" ++ v.inspect ++ "]"))
  | s, _ => .error (.notSubscriptable s.typeName)

/-- A subject after a conversion. -/
def convert (s : Subject) : Option Char → Except Error Subject
  | none => .ok s
  | some 's' => .ok (.value (.str (s.textBy Json.display)))
  | some 'r' => .ok (.value (.str (s.textBy Json.inspect)))
  | some 'a' => .ok (.value (.str (s.textBy Json.inspectAscii)))
  | some c => .error (.unknownConversion c)

/-- A subject set by the text of a specification. -/
def format (s : Subject) (spec : List Char) : Except Error (List Char) :=
  match s with
  | .value v => formatValue v spec
  | s =>
    if spec.isEmpty then .ok (s.textBy Json.display).toList
    else .error (.unsupportedSpecification s.typeName)

end Subject

end Voicemail.Template
