import Mathlib.Data.List.Basic
import Mathlib.Data.List.Find
import Mathlib.Data.List.TakeWhile
import Voicemail.Command
import Voicemail.Proofs.Assoc
import Voicemail.Proofs.Except

/-!
# Plain templates

A template is plain if it is text, in which braces are doubled, and fields of a name alone. Taken
apart, it is its parts again (`pieces_written`), so that rendering puts every parameter's text in as
it is, whatever braces it holds, and reports the first name without a parameter (`go_pieces`). The
names that fields of a name alone can have are those that stand for a parameter at all
(`isPlain_iff`). A command with a plain template is written in this way with any parameters but
those of the names that the call for a command uses itself (`CommandTable.rendersVerbatim_iff`).
-/

namespace Voicemail.Template

/-! ## Parts of plain templates -/

/-- The characters that cannot stand in a name as they are. -/
def marks : List Char := ['\x7b', '\x7d', '[', '.', ':', '!']

/-- The digits that a name begins with. -/
def digits (name : List Char) : List Char := name.takeWhile fun c => (Text.decimal? c).isSome

/-- A name that is looked up among the parameters as it stands in a field (`isPlain_iff`). -/
structure IsPlain (name : List Char) : Prop where
  unmarked : ∀ c ∈ name, c ∉ marks
  /-- It is not empty, and no number, -/
  named : digits name ≠ name
  /-- and it does not begin with one that is too large for a count. -/
  counted : Text.ofDigitValues ((digits name).filterMap Text.decimal?) ≤ maxCount

/-- A part of a plain template. -/
inductive Part where
  | literal (text : List Char)
  | parameter (name : List Char) (plain : IsPlain name)

namespace Part

/-- Text as a template has it. -/
def doubled (text : List Char) : List Char :=
  text.flatMap fun c => if c = '\x7b' ∨ c = '\x7d' then [c, c] else [c]

/-- A part as a template has it. -/
def written : Part → List Char
  | .literal text => doubled text
  | .parameter name _ => '\x7b' :: (name ++ ['\x7d'])

/-- The pieces of a part. -/
def pieces : Part → List Piece
  | .literal text => text.map .char
  | .parameter name _ => [.field ⟨name, none, []⟩]

/-- The parameter that a part names. -/
def name? : Part → Option String
  | .literal _ => none
  | .parameter name _ => some (String.ofList name)

/-- The text that stands for a part. -/
def filled (params : List (String × String)) : Part → List Char
  | .literal text => text
  | .parameter name _ => ((params.lookup (String.ofList name)).getD "").toList

end Part

/-- The template that parts write. -/
def written (parts : List Part) : String := String.ofList (parts.flatMap Part.written)

/-- The parameters that parts name, in order. -/
def names (parts : List Part) : List String := parts.filterMap Part.name?

/-- The first parameter that parts name and that is not given. -/
def missing? (params : List (String × String)) (parts : List Part) : Option String :=
  (names parts).find? fun name => (params.lookup name).isNone

/-- Parts with parameters put in. -/
def filled (params : List (String × String)) (parts : List Part) : String :=
  String.ofList (parts.flatMap (Part.filled params))

/-! ## Taking plain templates apart -/

/-- A text has some pieces, with enough fuel to find them. -/
def HasPieces (s : List Char) (ps : List Piece) : Prop :=
  ∀ fuel, s.length ≤ fuel → piecesAux fuel s = ps

namespace HasPieces

variable {s : List Char} {ps : List Piece}

/-- An empty text has no pieces. -/
theorem nil : HasPieces [] [] := by
  intro fuel _
  cases fuel <;> rfl

/-- A doubled brace is one brace. -/
theorem brace {c : Char} (hc : c = '\x7b' ∨ c = '\x7d') (h : HasPieces s ps) :
    HasPieces (c :: c :: s) (.char c :: ps) := by
  rintro (_ | fuel) hfuel
  · cases hfuel
  · have hrest : piecesAux fuel s = ps := h fuel (by simp only [List.length_cons] at hfuel; omega)
    obtain rfl | rfl := hc <;> simp only [piecesAux, hrest]

/-- Another character is itself. -/
theorem char {c : Char} (hc : ¬(c = '\x7b' ∨ c = '\x7d')) (h : HasPieces s ps) :
    HasPieces (c :: s) (.char c :: ps) := by
  rintro (_ | fuel) hfuel
  · cases hfuel
  · have hrest : piecesAux fuel s = ps := h fuel (by simp only [List.length_cons] at hfuel; omega)
    rw [not_or] at hc
    rw [piecesAux, hrest]
    · exact hc.1
    · exact hc.2

/-- Text is its characters, whatever follows it. -/
theorem doubled (text : List Char) (h : HasPieces s ps) :
    HasPieces (Part.doubled text ++ s) (text.map .char ++ ps) := by
  induction text with
  | nil => exact h
  | cons c text ih =>
    rw [Part.doubled, List.flatMap_cons, ← Part.doubled, List.append_assoc]
    split
    next hc => exact .brace hc ih
    next hc => exact .char hc ih

end HasPieces

/-- A plain name is read up to the closing brace, -/
theorem readName_plain {name : List Char} (h : ∀ c ∈ name, c ∉ marks) (rest : List Char) :
    readName false (name ++ '\x7d' :: rest) = .ok (name, '\x7d', rest) := by
  induction name with
  | nil => rfl
  | cons c name ih =>
    have hc := h c (.head _)
    simp only [marks, List.mem_cons, List.not_mem_nil, or_false, not_or] at hc
    obtain ⟨hopening, hclosing, hbracket, -, hcolon, hbang⟩ := hc
    rw [List.cons_append, readName]
    simp only [hopening, hclosing, hbracket, hcolon, hbang, Bool.false_eq_true, if_false,
      decide_false, Bool.or_false, ih fun d hd => h d (.tail _ hd)]
    rfl

/-- so that the field has the name alone. -/
theorem readField_plain {name : List Char} (h : IsPlain name) (rest : List Char) :
    readField (name ++ '\x7d' :: rest) = .ok (⟨name, none, []⟩, rest) := by
  rw [readField, readName_plain h.unmarked]
  rfl

/-- A plain name has a first character, which is no brace. -/
theorem IsPlain.exists_cons {name : List Char} (h : IsPlain name) :
    ∃ c rest, name = c :: rest ∧ c ≠ '\x7b' := by
  cases name with
  | nil => exact absurd rfl h.named
  | cons c rest =>
    refine ⟨c, rest, rfl, ?_⟩
    rintro rfl
    exact h.unmarked _ (.head _) (by decide)

/-- A brace that is not doubled opens a field. -/
theorem piecesAux_opening (fuel : Nat) {c : Char} (hc : c ≠ '\x7b') (s : List Char) :
    piecesAux (fuel + 1) ('\x7b' :: c :: s) = match readField (c :: s) with
      | .ok (f, rest) => .field f :: piecesAux fuel rest
      | .error e => [.malformed e] := by
  cases hread : readField (c :: s) <;> simp [piecesAux, hc, hread]

/-- A field of a plain name is one piece, whatever follows it. -/
theorem HasPieces.field {name s : List Char} {ps : List Piece} (hname : IsPlain name)
    (h : HasPieces s ps) :
    HasPieces ('\x7b' :: (name ++ '\x7d' :: s)) (.field ⟨name, none, []⟩ :: ps) := by
  rintro (_ | fuel) hfuel
  · cases hfuel
  · have hrest : piecesAux fuel s = ps := by
      refine h fuel ?_
      simp only [List.length_cons, List.length_append] at hfuel
      omega
    have hfield := readField_plain hname s
    obtain ⟨c, rest, rfl, hc⟩ := hname.exists_cons
    rw [List.cons_append] at hfield ⊢
    rw [piecesAux_opening fuel hc, hfield]
    exact congrArg _ hrest

/-- Parts are taken apart into their pieces. -/
theorem pieces_written (parts : List Part) :
    pieces (written parts).toList = parts.flatMap Part.pieces := by
  have hparts : HasPieces (parts.flatMap Part.written) (parts.flatMap Part.pieces) := by
    induction parts with
    | nil => exact .nil
    | cons part parts ih =>
      rw [List.flatMap_cons, List.flatMap_cons]
      cases part with
      | literal text => exact .doubled text ih
      | parameter name plain =>
        have hfield := HasPieces.field plain ih
        simpa [Part.written, Part.pieces] using hfield
  rw [written, String.toList_ofList, pieces]
  exact hparts _ (Nat.le_refl _)

/-! ## Putting texts in -/

/-- Texts as parameters. -/
def texts (params : List (String × String)) : List (String × Json) :=
  params.map fun p => (p.1, .str p.2)

variable (params : List (String × String))

/-- A text among parameters is found under its name. -/
theorem lookup_texts (name : String) :
    (texts params).lookup name = (params.lookup name).map .str :=
  Assoc.lookup_map Json.str params name

/-- A name is no number exactly if it has more than digits, and not too many of them. -/
theorem index?_eq_none_iff {name : List Char} (h : name ≠ []) :
    index? name = .ok none ↔ digits name ≠ name ∧
      Text.ofDigitValues ((digits name).filterMap Text.decimal?) ≤ maxCount := by
  rw [index?, readCount, ← digits]
  split
  next hnone =>
    rw [List.isEmpty_iff] at hnone
    rw [hnone]
    exact iff_of_true rfl ⟨h.symm, Nat.zero_le _⟩
  next =>
    dsimp only
    split
    next hlarge => exact iff_of_false nofun fun hsmall => absurd hlarge (Nat.not_lt.2 hsmall.2)
    next hsmall =>
      have hsmall := Nat.not_lt.1 hsmall
      cases hrest : name.drop (digits name).length with
      | nil =>
        have hall : digits name = name :=
          (List.takeWhile_prefix _).eq_of_length_le (List.drop_eq_nil_iff.1 hrest)
        exact iff_of_false nofun fun hnamed => hnamed.1 hall
      | cons =>
        refine iff_of_true rfl ⟨fun hall => ?_, hsmall⟩
        rw [hall, List.drop_length] at hrest
        cases hrest

/-- A plain name stands for the parameter of that name. -/
theorem IsPlain.resolve {name : List Char} (h : IsPlain name) (params : List (String × Json)) :
    Template.resolve params name = match params.lookup (String.ofList name) with
      | none => .error (.missingParameter (String.ofList name))
      | some v => .ok (.value v) := by
  have hfirst : name.takeWhile (fun c => c ≠ '.' && c ≠ '[') = name := by
    refine List.takeWhile_eq_self_iff.2 fun c hc => ?_
    have hmark := h.unmarked c hc
    simp only [marks, List.mem_cons, not_or] at hmark
    simp [hmark]
  obtain ⟨c, rest, rfl, -⟩ := h.exists_cons
  rw [Template.resolve]
  simp only [hfirst, index?_eq_none_iff (List.cons_ne_nil c rest) |>.2 ⟨h.named, h.counted⟩,
    List.drop_length]
  cases params.lookup (String.ofList (c :: rest)) <;> rfl

section
variable (nested : List Char → Except Error (List Char)) (rest : List Piece)

/-- Text is put out as it is, -/
theorem go_literal (text : List Char) :
    renderTo.go (texts params) nested (text.map .char ++ rest) =
      (renderTo.go (texts params) nested rest).map (text ++ ·) := by
  induction text with
  | nil =>
    rw [List.map_nil, List.nil_append]
    cases renderTo.go (texts params) nested rest <;> rfl
  | cons c text ih =>
    rw [List.map_cons, List.cons_append, renderTo.go, ih]
    cases renderTo.go (texts params) nested rest <;> rfl

/-- and so is the parameter of a plain name, if there is one. -/
theorem go_parameter {name : List Char} (h : IsPlain name) :
    renderTo.go (texts params) nested (.field ⟨name, none, []⟩ :: rest) =
      match params.lookup (String.ofList name) with
      | none => .error (.missingParameter (String.ofList name))
      | some text => (renderTo.go (texts params) nested rest).map (text.toList ++ ·) := by
  rw [renderTo.go, h.resolve, lookup_texts]
  cases params.lookup (String.ofList name) with
  | none => rfl
  | some text => cases renderTo.go (texts params) nested rest <;> rfl

end

/-- The first parameter is the missing one if it is not given, else one after it is. -/
theorem missing?_parameter {name : List Char} (plain : IsPlain name) (parts : List Part) :
    missing? params (.parameter name plain :: parts) =
      match params.lookup (String.ofList name) with
      | none => some (String.ofList name)
      | some _ => missing? params parts := by
  have hnames : names (.parameter name plain :: parts) = String.ofList name :: names parts := rfl
  rw [missing?, hnames, List.find?_cons]
  cases params.lookup (String.ofList name) <;> rfl

/-- Parts are put out with the parameters in them, up to the first one that is missing. -/
theorem go_pieces (nested : List Char → Except Error (List Char)) (parts : List Part) :
    renderTo.go (texts params) nested (parts.flatMap Part.pieces) =
      match missing? params parts with
      | some name => .error (.missingParameter name)
      | none => .ok (parts.flatMap (Part.filled params)) := by
  induction parts with
  | nil => rfl
  | cons part parts ih =>
    rw [List.flatMap_cons, List.flatMap_cons]
    cases part with
    | literal text =>
      have hmissing : missing? params (.literal text :: parts) = missing? params parts := rfl
      rw [Part.pieces, go_literal, ih, hmissing]
      cases missing? params parts <;> rfl
    | parameter name plain =>
      rw [Part.pieces, List.singleton_append, go_parameter params nested _ plain, ih,
        missing?_parameter, Part.filled]
      cases params.lookup (String.ofList name) with
      | none => rfl
      | some text => cases missing? params parts <;> rfl

/-- A plain template is written with the parameters in it, up to the first one that is missing. -/
theorem render_written (parts : List Part) :
    render (written parts) (texts params) = match missing? params parts with
      | some name => .error (.missingParameter name)
      | none => .ok (filled params parts) := by
  rw [render, renderTo, pieces_written, go_pieces]
  cases missing? params parts <;> rfl

/-- Braces that a parameter's text has, or that stand around it, open no field. -/
example : render "\x7b\x7b\x7bx\x7d\x7d\x7d" (texts [("x", "\x7by\x7d"), ("y", "z")]) =
    .ok "\x7b\x7by\x7d\x7d" := rfl

/-- No parameter is missing if every name that parts have is a key, -/
theorem missing?_eq_none {parts : List Part} (h : ∀ name ∈ names parts, name ∈ Assoc.keys params) :
    missing? params parts = none := by
  refine List.find?_eq_none.2 fun name hname => ?_
  rw [Bool.not_eq_true, Option.isNone_eq_false_iff]
  exact Assoc.isSome_lookup_iff.2 (h name hname)

/-- and the first name that is no key is the one that is missing. -/
theorem missing?_eq_some {parts : List Part} {before after : List String} {name : String}
    (hparts : names parts = before ++ name :: after)
    (hbefore : ∀ other ∈ before, other ∈ Assoc.keys params) (hname : name ∉ Assoc.keys params) :
    missing? params parts = some name := by
  refine List.find?_eq_some_iff_append.2 ⟨?_, before, after, hparts, fun other hother => ?_⟩
  · rw [Assoc.lookup_of_not_mem hname, Option.isNone_none]
  · rw [Bool.not_eq_true', Option.isNone_eq_false_iff]
    exact Assoc.isSome_lookup_iff.2 (hbefore other hother)

/-! ## Plain names -/

/-- A name is read up to where it ends. It has no marks if it has no point and no bracket. -/
theorem readName_spec {inBrackets : Bool} {s name rest : List Char} {stop : Char}
    (h : readName inBrackets s = .ok (name, stop, rest)) :
    name ++ stop :: rest = s ∧
      (inBrackets = false → (∀ c ∈ name, c ≠ '.' ∧ c ≠ '[') → ∀ c ∈ name, c ∉ marks) := by
  induction s generalizing inBrackets name with
  | nil => cases inBrackets <;> cases h
  | cons c s ih =>
    rw [readName] at h
    split at h
    next hin =>
      obtain ⟨⟨name', stop', rest'⟩, hread, hreturn⟩ := exists_of_bind_ok h
      cases hreturn
      exact ⟨congrArg (c :: ·) (ih hread).1, fun hout => nomatch hin.symm.trans hout⟩
    split at h
    · cases h
    split at h
    · cases h
      exact ⟨rfl, fun _ _ => nofun⟩
    next hopening hends =>
      obtain ⟨⟨name', stop', rest'⟩, hread, hreturn⟩ := exists_of_bind_ok h
      cases hreturn
      obtain ⟨happend, hmarks⟩ := ih hread
      refine ⟨congrArg (c :: ·) happend, fun _ hplain => ?_⟩
      obtain ⟨⟨hpoint, hbracket⟩, hplain⟩ := List.forall_mem_cons.1 hplain
      refine List.forall_mem_cons.2 ⟨?_, hmarks (decide_eq_false hbracket) hplain⟩
      simp only [Bool.or_eq_true, decide_eq_true_eq, not_or] at hends
      simp [marks, hopening, hends, hpoint, hbracket]

/-- The name of a field is what was read first of it. -/
theorem readField_name {s rest : List Char} {f : Field} (h : readField s = .ok (f, rest)) :
    ∃ stop rest', readName false s = .ok (f.name, stop, rest') := by
  obtain ⟨⟨name, stop, rest'⟩, hread, h⟩ := exists_of_bind_ok h
  have hname : f.name = name := by
    dsimp only at h
    split at h
    · cases h; rfl
    split at h
    · obtain ⟨_, -, h⟩ := exists_of_bind_ok h
      cases h; rfl
    split at h
    · cases h
    · cases h
    · cases h; rfl
    · obtain ⟨_, -, h⟩ := exists_of_bind_ok h
      cases h; rfl
    · cases h
  exact ⟨stop, rest', hname ▸ hread⟩

/-- What stands for something begins with the name of a parameter, which is no number. -/
theorem resolve_ok {params : List (String × Json)} {name : List Char} {x : Subject}
    (h : resolve params name = .ok x) :
    ∃ first, first = name.takeWhile (fun c => c ≠ '.' && c ≠ '[') ∧ first ≠ [] ∧
      index? first = .ok none ∧ String.ofList first ∈ Assoc.keys params := by
  rw [resolve] at h
  refine ⟨_, rfl, ?_⟩
  generalize name.takeWhile (fun c => c ≠ '.' && c ≠ '[') = first at h ⊢
  split at h
  · cases h
  next hfirst =>
    obtain ⟨index, hindex, h⟩ := exists_of_bind_ok h
    cases index with
    | some n => cases h
    | none =>
      refine ⟨mt List.isEmpty_iff.2 hfirst, hindex, Assoc.isSome_lookup_iff.1 ?_⟩
      dsimp only at h
      cases hlookup : params.lookup (String.ofList first) with
      | none => rw [hlookup] at h; cases h
      | some => rfl

/-- The text that a template gives is written with two levels of nesting to go. -/
theorem renderTo_of_render {template text : String} {params : List (String × Json)}
    (h : render template params = .ok text) :
    renderTo 2 params template.toList = .ok text.toList := by
  cases hrender : renderTo 2 params template.toList with
  | error e =>
    rw [render, hrender] at h
    cases h
  | ok s =>
    rw [render, hrender] at h
    cases h
    rw [String.toList_ofList]

/-- A text in braces that writes nothing begins with a field, which stands for something. -/
theorem exists_field_of_render {params : List (String × Json)} {name : List Char}
    (h : render (String.ofList ('\x7b' :: (name ++ ['\x7d']))) params = .ok "") :
    ∃ f x rest, readField (name ++ ['\x7d']) = .ok (f, rest) ∧ resolve params f.name = .ok x := by
  obtain ⟨c, s, hs⟩ : ∃ c s, name ++ ['\x7d'] = c :: s := by
    cases name <;> exact ⟨_, _, rfl⟩
  have hrender := renderTo_of_render h
  rw [String.toList_ofList, hs, renderTo, pieces, List.length_cons] at hrender
  rw [hs]
  by_cases hc : c = '\x7b'
  · -- a doubled brace would be written as one
    subst hc
    rw [List.length_cons, piecesAux, renderTo.go] at hrender
    obtain ⟨_, -, hcons⟩ := exists_of_bind_ok hrender
    cases hcons
  · rw [piecesAux_opening _ hc] at hrender
    cases hread : readField (c :: s) with
    | error e =>
      rw [hread] at hrender
      cases hrender
    | ok r =>
      rw [hread] at hrender
      obtain ⟨x, hx, -⟩ := exists_of_bind_ok hrender
      exact ⟨r.1, x, r.2, rfl, hx⟩

/-- The plain names are those of which a field alone writes the parameter. -/
theorem isPlain_iff (name : List Char) :
    IsPlain name ↔ ∀ text : String,
      render (String.ofList ('\x7b' :: (name ++ ['\x7d']))) [(String.ofList name, .str text)] =
        .ok text := by
  constructor
  · intro h text
    have hrender := render_written [(String.ofList name, text)] [.parameter name h]
    simpa [written, Part.written, texts, missing?, names, Part.name?, filled, Part.filled]
      using hrender
  · intro h
    obtain ⟨f, x, rest, hread, hresolve⟩ := exists_field_of_render (h "")
    obtain ⟨stop, rest', hname⟩ := readField_name hread
    obtain ⟨happend, hmarks⟩ := readName_spec hname
    obtain ⟨first, hfirst, hnonempty, hindex, hkey⟩ := resolve_ok hresolve
    obtain rfl : first = name := by simpa [Assoc.keys, String.ofList_inj] using hkey
    -- the parameter's name is all that is read, since no more than it stands in the braces
    have hwhole : f.name = first := by
      have hlength := congrArg List.length happend
      simp only [List.length_append, List.length_cons, List.length_nil] at hlength
      rw [hfirst]
      refine ((List.takeWhile_prefix _).eq_of_length_le ?_).symm
      rw [← hfirst]
      omega
    rw [hwhole] at hfirst hmarks
    obtain ⟨hnamed, hcounted⟩ := (index?_eq_none_iff hnonempty).1 hindex
    refine ⟨hmarks rfl fun c hc => ?_, hnamed, hcounted⟩
    simpa using List.takeWhile_eq_self_iff.1 hfirst.symm c hc

/-! ## Parameters that are not named -/

/-- The parameters that parts name. -/
def used (params : List (String × String)) (parts : List Part) : List (String × String) :=
  params.filter fun p => p.1 ∈ names parts

/-- All names of the parameters that are named are names of parameters. -/
theorem keys_used_subset (parts : List Part) :
    Assoc.keys (used params parts) ⊆ Assoc.keys params :=
  (List.filter_sublist.map _).subset

/-- A parameter that is named is found among those that are. -/
theorem lookup_used {parts : List Part} {name : String} (h : name ∈ names parts) :
    (used params parts).lookup name = params.lookup name := by
  have hname : decide (name ∈ names parts) = true := decide_eq_true h
  exact Assoc.lookup_filter (q := fun key => key ∈ names parts) hname params

/-- The first missing parameter does not depend on parameters that are not named, -/
theorem missing?_used (parts : List Part) :
    missing? (used params parts) parts = missing? params parts :=
  List.find?_congr fun _ hname => by rw [lookup_used params hname]

/-- and neither does the text with the parameters in it. -/
theorem filled_used (parts : List Part) :
    filled (used params parts) parts = filled params parts := by
  refine congrArg String.ofList (List.flatMap_congr fun part hpart => ?_)
  cases part with
  | literal => rfl
  | parameter name plain =>
    have hname : String.ofList name ∈ names parts := List.mem_filterMap.2 ⟨_, hpart, rfl⟩
    rw [Part.filled, Part.filled, lookup_used params hname]

end Voicemail.Template

namespace Voicemail.CommandTable

open Template

/-! ## Plain templates of commands -/

/-- A command has a template: the override if there is one, else the default. -/
def HasTemplate (t : CommandTable) (c : Command) (template : String) : Prop :=
  t.overrides.lookup c = some template ∨
    t.overrides.lookup c = none ∧ t.defaults.lookup c = some template

/-- Texts are put into every plain template of a command as they are, whatever braces they hold. -/
structure RendersVerbatim (params : List (String × String)) : Prop where
  /-- If no parameter is missing, the command is its text with the parameters in it. -/
  whole {t : CommandTable} {c : Command} {parts : List Part} :
    t.HasTemplate c (written parts) →
    (∀ name ∈ names parts, name ∈ Assoc.keys params) →
    t.render c (texts params) = .ok (filled params parts)
  /-- Parameters that the template does not name make no difference. -/
  unused {t : CommandTable} {c : Command} {parts : List Part} :
    t.HasTemplate c (written parts) →
    t.render c (texts params) = t.render c (texts (used params parts))
  /-- If parameters are missing, the first one is reported. -/
  missing {t : CommandTable} {c : Command} {parts : List Part} {before after : List String}
      {name : String} :
    t.HasTemplate c (written parts) → names parts = before ++ name :: after →
    (∀ other ∈ before, other ∈ Assoc.keys params) → name ∉ Assoc.keys params →
    t.render c (texts params) = .error (.template (.missingParameter name))

/-- The template that a command has is the one that is used. -/
theorem HasTemplate.template_eq {t : CommandTable} {c : Command} {template : String}
    (h : t.HasTemplate c template) : t.template c = .ok template := by
  have heffective : t.template? c = some template := by
    rw [template?]
    obtain h | ⟨hnone, h⟩ := h
    · rw [h]; rfl
    · rw [hnone, h]; rfl
  rw [CommandTable.template, heffective]

/-- Parameters are taken exactly if none has a name that the call uses itself. -/
theorem misuse?_eq_none_iff {names : List String} :
    misuse? names = none ↔ ∀ name ∈ ownNames, name ∉ names := by
  rw [misuse?, Option.map_eq_none_iff, List.find?_eq_none]
  simp only [List.contains_iff_mem]
  exact ⟨fun h name hown hname => h name hname hown, fun h name hname hown => h name hown hname⟩

/-- A command with a plain template is written with the parameters in it, up to the first one that
is missing. -/
theorem HasTemplate.render_eq {t : CommandTable} {c : Command} {parts : List Part}
    (h : t.HasTemplate c (written parts)) {params : List (String × String)}
    (hown : ∀ name ∈ ownNames, name ∉ Assoc.keys params) :
    t.render c (texts params) = match missing? params parts with
      | some name => .error (.template (.missingParameter name))
      | none => .ok (filled params parts) := by
  have hkeys : (texts params).map (·.1) = Assoc.keys params := List.map_map
  rw [CommandTable.render, hkeys, misuse?_eq_none_iff.2 hown, h.template_eq]
  show (Template.render _ _).mapError _ = _
  rw [render_written]
  cases missing? params parts <;> rfl

/-- Nothing is written if a parameter has a name that the call uses itself. -/
theorem not_rendersVerbatim {params : List (String × String)} {name : String}
    (hown : name ∈ ownNames) (hname : name ∈ Assoc.keys params) : ¬RendersVerbatim params := by
  intro h
  have hplain : base.HasTemplate .closeNewUserTutorial (written [.literal "XCLOSE_NUT".toList]) :=
    .inr ⟨rfl, rfl⟩
  have hwhole := h.whole hplain nofun
  have hkeys : (texts params).map (·.1) = Assoc.keys params := List.map_map
  rw [CommandTable.render, hkeys] at hwhole
  cases hmisuse : misuse? (Assoc.keys params) with
  | none => exact misuse?_eq_none_iff.1 hmisuse name hown hname
  | some m =>
    rw [hmisuse] at hwhole
    cases hwhole

/-- Texts are put into plain templates as they are exactly if none of them has a name that the call
for a command uses itself. -/
theorem rendersVerbatim_iff (params : List (String × String)) :
    RendersVerbatim params ↔ ∀ name ∈ ownNames, name ∉ Assoc.keys params := by
  constructor
  · exact fun h name hown hname => not_rendersVerbatim hown hname h
  · intro hown
    refine ⟨fun h hkeys => ?_, fun h => ?_, fun h hparts hbefore hname => ?_⟩
    · rw [h.render_eq hown, missing?_eq_none params hkeys]
    · rw [h.render_eq hown, h.render_eq, missing?_used, filled_used]
      exact fun name hname hmem => hown name hname (keys_used_subset params _ hmem)
    · rw [h.render_eq hown, missing?_eq_some params hparts hbefore hname]

/-- A parameter cannot be named as the command is. -/
theorem not_rendersVerbatim_command : ¬RendersVerbatim [("command", "5")] :=
  not_rendersVerbatim (.tail _ (.head _)) (.head _)

end Voicemail.CommandTable
