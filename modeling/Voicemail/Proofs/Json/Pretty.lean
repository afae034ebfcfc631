import Voicemail.Proofs.Json.RoundTrip

/-!
# Values over several lines read back

The form of a value over several lines writes a double that is not finite as null, so a value is
read back from it only without doubles (`Floatless`). What it has more than the form on one line are
line breaks and indents, which the readers pass over (`skipSpace_newline`): so the text of every
value at every indent is read up to what follows it (`readValue_pretty`), and that of items or
members from the first one on up to the closing bracket on its own line (`readItems_pretty`,
`readMembers_pretty`). Like the readers, these count down the fuel, whatever the indents are.
-/

namespace Voicemail.Json

mutual
/-- A value that holds no double. -/
def Floatless : Json → Prop
  | .float _ => False
  | .arr xs => AllFloatless xs
  | .obj ms => MembersFloatless ms
  | _ => True

/-- Items that hold no double. -/
def AllFloatless : List Json → Prop
  | [] => True
  | x :: xs => x.Floatless ∧ AllFloatless xs

/-- Members whose values hold no double. -/
def MembersFloatless : List (String × Json) → Prop
  | [] => True
  | (_, x) :: ms => x.Floatless ∧ MembersFloatless ms
end

/-- A value that a reader can give and that every form says exactly. -/
structure IsExact (limited : Bool) (v : Json) : Prop where
  fits : v.Fits limited
  floatless : v.Floatless

variable {limited : Bool} {fuel indent outer : Nat} {rest : List Char}

@[simp] theorem isExact_null : Json.null.IsExact limited := ⟨trivial, trivial⟩

@[simp] theorem isExact_bool (b : Bool) : (Json.bool b).IsExact limited := ⟨trivial, trivial⟩

@[simp] theorem isExact_str (s : String) : (Json.str s).IsExact limited := ⟨trivial, trivial⟩

/-- Every integer is exact for a reader that does not limit integers. -/
@[simp] theorem isExact_int (n : Int) : (Json.int n).IsExact false :=
  ⟨fun h => absurd h Bool.false_ne_true, trivial⟩

@[simp] theorem isExact_arr_nil : (Json.arr []).IsExact limited := ⟨trivial, trivial⟩

@[simp] theorem isExact_obj_nil : (Json.obj []).IsExact limited := ⟨⟨.nil, trivial⟩, trivial⟩

@[simp] theorem isExact_items {x : Json} {xs : List Json} :
    (Json.arr (x :: xs)).IsExact limited ↔ x.IsExact limited ∧ (Json.arr xs).IsExact limited :=
  ⟨fun h => ⟨⟨h.1.1, h.2.1⟩, h.1.2, h.2.2⟩, fun h => ⟨⟨h.1.1, h.2.1⟩, h.1.2, h.2.2⟩⟩

@[simp] theorem isExact_members {k : String} {v : Json} {ms : List (String × Json)} :
    (Json.obj ((k, v) :: ms)).IsExact limited ↔
      k ∉ Assoc.keys ms ∧ v.IsExact limited ∧ (Json.obj ms).IsExact limited := by
  constructor
  · rintro ⟨⟨hkeys, hv, hms⟩, hvf, hmsf⟩
    obtain ⟨hk, hkeys⟩ := List.nodup_cons.1 hkeys
    exact ⟨hk, ⟨hv, hvf⟩, ⟨hkeys, hms⟩, hmsf⟩
  · rintro ⟨hk, ⟨hv, hvf⟩, ⟨hkeys, hms⟩, hmsf⟩
    exact ⟨⟨List.nodup_cons.2 ⟨hk, hkeys⟩, hv, hms⟩, hvf, hmsf⟩

/-! ## Lines -/

/-- A line break and the indent behind it are passed over. -/
theorem skipSpace_newline (indent : Nat) (s : List Char) :
    skipSpace (newline indent ++ s) = skipSpace s := by
  refine List.dropWhile_append_of_pos fun c hc => ?_
  obtain rfl | hc := List.mem_cons.1 hc
  · rfl
  · rw [List.eq_of_mem_replicate hc]
    rfl

/-- A line break may follow every value. -/
theorem follows_newline (indent : Nat) (s : List Char) : Follows (newline indent ++ s) :=
  follows_cons (.inr (.inr (.inr rfl))) _

/-- A value that holds no others stands on one line. -/
theorem pretty_null : pretty indent .null = write .spaced .null := by
  rw [pretty, write]

/-- Truth values are written as on one line, -/
theorem pretty_bool (b : Bool) : pretty indent (.bool b) = write .spaced (.bool b) := by
  cases b <;> rw [pretty, write]

/-- and so are integers. -/
theorem pretty_int (n : Int) : pretty indent (.int n) = write .spaced (.int n) := by
  rw [pretty, write]

/-- The text of a value over several lines starts like a value. -/
theorem pretty_starts {v : Json} (h : v.IsExact limited) (indent : Nat) :
    ∃ c cs, pretty indent v = c :: cs ∧ Starts c := by
  obtain ⟨hfits, hfloatless⟩ := h
  cases v with
  | null => exact ⟨'n', _, rfl, by decide⟩
  | bool b => cases b <;> exact ⟨_, _, rfl, by decide⟩
  | int n =>
    rw [pretty_int]
    exact write_starts hfits
  | float x => exact hfloatless.elim
  | str s => exact ⟨'"', _, rfl, by decide⟩
  | arr xs => cases xs <;> exact ⟨'[', _, rfl, by decide⟩
  | obj ms => cases ms <;> exact ⟨'\x7b', _, rfl, by decide⟩

/-- There is no white space to pass over before it. -/
theorem skipSpace_pretty {v : Json} (h : v.IsExact limited) (indent : Nat) (s : List Char) :
    skipSpace (pretty indent v ++ s) = pretty indent v ++ s :=
  skipSpace_append_of_starts (pretty_starts h indent) s

/-! ## Values that hold others -/

/-- Items from the first one on, each but the first on a line of its own. -/
def itemLines (indent : Nat) : List Json → List Char
  | [] => []
  | x :: xs => pretty indent x ++ prettyItems indent xs

/-- Members from the first one on, each but the first on a line of its own. -/
def memberLines (indent : Nat) : List (String × Json) → List Char
  | [] => []
  | (k, v) :: ms =>
    '"' :: (k.toList.flatMap escapeControl ++
      '"' :: ':' :: ' ' :: (pretty indent v ++ prettyMembers indent ms))

/-- An array with items has its brackets on lines of their own. -/
theorem pretty_arr (x : Json) (xs : List Json) :
    pretty indent (.arr (x :: xs)) =
      '[' :: (newline (indent + 2) ++ (itemLines (indent + 2) (x :: xs) ++
        (newline indent ++ [']']))) := by
  simp [pretty, itemLines]

/-- An object with members has its braces on lines of their own. -/
theorem pretty_obj (m : String × Json) (ms : List (String × Json)) :
    pretty indent (.obj (m :: ms)) =
      '\x7b' :: (newline (indent + 2) ++ (memberLines (indent + 2) (m :: ms) ++
        (newline indent ++ ['\x7d']))) := by
  simp [pretty, memberLines, writeString]

/-- After an item and a comma the next item is on a new line. -/
theorem itemLines_cons (x y : Json) (ys : List Json) :
    itemLines indent (x :: y :: ys) =
      pretty indent x ++ ',' :: (newline indent ++ itemLines indent (y :: ys)) := by
  simp [itemLines, prettyItems]

/-- After a member and a comma the next member is on a new line. -/
theorem memberLines_cons (k : String) (v : Json) (m : String × Json) (ms : List (String × Json)) :
    memberLines indent ((k, v) :: m :: ms) =
      '"' :: (k.toList.flatMap escapeControl ++
        '"' :: ':' :: ' ' ::
          (pretty indent v ++ ',' :: (newline indent ++ memberLines indent (m :: ms)))) := by
  simp [memberLines, prettyMembers, writeString]

/-- Items from the first one on start like a value. -/
theorem itemLines_starts {x : Json} (h : x.IsExact limited) (indent : Nat) (xs : List Json) :
    ∃ c cs, itemLines indent (x :: xs) = c :: cs ∧ Starts c := by
  obtain ⟨c, cs, hcs, hc⟩ := pretty_starts h indent
  exact ⟨c, _, by rw [itemLines, hcs, List.cons_append], hc⟩

/-- An array over several lines is read back if its items are. -/
theorem readValue_pretty_arr {x : Json} {xs : List Json} (hx : x.IsExact limited)
    (hread : readItems limited fuel (itemLines (indent + 2) (x :: xs) ++
      (newline indent ++ ']' :: rest)) = some (x :: xs, rest)) :
    readValue limited (fuel + 1) (pretty indent (.arr (x :: xs)) ++ rest) =
      some (.arr (x :: xs), rest) := by
  obtain ⟨c, cs, hcs, hc⟩ := itemLines_starts hx (indent + 2) xs
  rw [hcs, List.cons_append] at hread
  have htext : pretty indent (.arr (x :: xs)) ++ rest =
      '[' :: (newline (indent + 2) ++ c :: (cs ++ (newline indent ++ ']' :: rest))) := by
    simp [pretty_arr, hcs]
  rw [htext]
  exact readValue_items ((skipSpace_newline _ _).trans (skipSpace_of_starts hc _)) hc hread

/-- An object over several lines is read back if its members are and no key is there twice. -/
theorem readValue_pretty_obj {m : String × Json} {ms : List (String × Json)}
    (hkeys : (Assoc.keys (m :: ms)).Nodup)
    (hread : readMembers limited fuel (memberLines (indent + 2) (m :: ms) ++
      (newline indent ++ '\x7d' :: rest)) = some (m :: ms, rest)) :
    readValue limited (fuel + 1) (pretty indent (.obj (m :: ms)) ++ rest) =
      some (.obj (m :: ms), rest) := by
  rw [pretty_obj, List.cons_append, List.append_assoc, List.append_assoc, List.append_assoc]
  exact readValue_members (skipSpace_newline _ _) hkeys hread

/-- Items on lines of their own are read back if the first one and those after it are. -/
theorem readItems_pretty_cons {x y : Json} {ys : List Json} (hy : y.IsExact limited)
    (hx : ∀ rest, Follows rest →
      readValue limited fuel (pretty indent x ++ rest) = some (x, rest))
    (hread : readItems limited fuel (itemLines indent (y :: ys) ++
      (newline outer ++ ']' :: rest)) = some (y :: ys, rest)) :
    readItems limited (fuel + 1) (itemLines indent (x :: y :: ys) ++
      (newline outer ++ ']' :: rest)) = some (x :: y :: ys, rest) := by
  rw [itemLines_cons, List.append_assoc, List.cons_append, List.append_assoc]
  refine readItems_next (hx _ (follows_cons (.inl rfl) _)) rfl ?_
  rw [skipSpace_newline, skipSpace_append_of_starts (itemLines_starts hy indent ys), hread]

/-- A value on the line of its key is read behind the blank. -/
theorem readValue_pretty_blank {v : Json} (hv : v.IsExact limited)
    (hvalue : ∀ rest, Follows rest →
      readValue limited fuel (pretty indent v ++ rest) = some (v, rest)) (hrest : Follows rest) :
    readValue limited fuel (skipSpace (' ' :: (pretty indent v ++ rest))) = some (v, rest) := by
  rw [skipSpace_blank, skipSpace_pretty hv, hvalue rest hrest]

/-- A single member on a line of its own is read back if its value is. -/
theorem readMembers_pretty_singleton {k : String} {v : Json} (hv : v.IsExact limited)
    (hvalue : ∀ rest, Follows rest →
      readValue limited fuel (pretty indent v ++ rest) = some (v, rest)) :
    readMembers limited (fuel + 1) (memberLines indent [(k, v)] ++
      (newline outer ++ '\x7d' :: rest)) = some ([(k, v)], rest) := by
  simp only [memberLines, prettyMembers, List.append_nil, List.cons_append, List.append_assoc]
  exact readMembers_last (readsBack_escapeControl.readString k _) rfl
    (readValue_pretty_blank hv hvalue (follows_newline outer _)) (skipSpace_newline outer _)

/-- Members on lines of their own are read back if the first one's value and those after it are. -/
theorem readMembers_pretty_cons {k : String} {v : Json} {m : String × Json}
    {ms : List (String × Json)} (hv : v.IsExact limited)
    (hvalue : ∀ rest, Follows rest →
      readValue limited fuel (pretty indent v ++ rest) = some (v, rest))
    (hread : readMembers limited fuel (memberLines indent (m :: ms) ++
      (newline outer ++ '\x7d' :: rest)) = some (m :: ms, rest)) :
    readMembers limited (fuel + 1) (memberLines indent ((k, v) :: m :: ms) ++
      (newline outer ++ '\x7d' :: rest)) = some ((k, v) :: m :: ms, rest) := by
  simp only [memberLines_cons, List.cons_append, List.append_assoc]
  refine readMembers_next (readsBack_escapeControl.readString k _) rfl
    (readValue_pretty_blank hv hvalue (follows_cons (.inl rfl) _)) rfl ?_
  rw [skipSpace_newline]
  exact hread

/-! ## The round trip -/

mutual
/-- The text of a value over several lines is read as the value, up to what follows it. -/
theorem readValue_pretty : ∀ {v : Json} {indent fuel : Nat} {rest : List Char},
    v.IsExact limited → 2 * (pretty indent v).length ≤ fuel → Follows rest →
    readValue limited fuel (pretty indent v ++ rest) = some (v, rest)
  | v, indent, 0, _, h, hfuel, _ => by
    have := length_pos_of_starts (pretty_starts h indent)
    omega
  | .null, _, fuel + 1, rest, _, _, _ => by
    rw [pretty_null]
    exact readValue_null
  | .bool b, _, fuel + 1, rest, _, _, _ => by
    rw [pretty_bool]
    exact readValue_bool b
  | .int n, _, fuel + 1, rest, h, _, hrest => by
    rw [pretty_int]
    exact readValue_int h.fits hrest
  | .float x, _, fuel + 1, rest, h, _, _ => h.floatless.elim
  | .str t, _, fuel + 1, rest, _, _, _ => readValue_str readsBack_escapeControl t
  | .arr [], _, fuel + 1, rest, _, _, _ => rfl
  | .arr (x :: xs), indent, fuel + 1, rest, h, hfuel, _ => by
    -- The brackets alone pay for the fuel of the two readers; the lines come on top of it.
    refine readValue_pretty_arr (isExact_items.1 h).1 (readItems_pretty h ?_)
    simp only [pretty_arr, List.length_append, List.length_cons, List.length_nil] at hfuel
    omega
  | .obj [], _, fuel + 1, rest, _, _, _ => rfl
  | .obj ((k, v) :: ms), indent, fuel + 1, rest, h, hfuel, _ => by
    refine readValue_pretty_obj h.fits.1 (readMembers_pretty h ?_)
    simp only [pretty_obj, List.length_append, List.length_cons, List.length_nil] at hfuel
    omega
termination_by structural _ _ fuel => fuel

/-- The text of items is read as the items, up to what follows the closing bracket. -/
theorem readItems_pretty : ∀ {x : Json} {xs : List Json} {indent outer fuel : Nat}
    {rest : List Char}, (Json.arr (x :: xs)).IsExact limited →
    2 * (itemLines indent (x :: xs)).length < fuel →
    readItems limited fuel (itemLines indent (x :: xs) ++ (newline outer ++ ']' :: rest)) =
      some (x :: xs, rest)
  | _, _, _, _, 0, _, _, hfuel => absurd hfuel (Nat.not_lt_zero _)
  | x, [], indent, outer, fuel + 1, rest, h, hfuel => by
    rw [itemLines, prettyItems, List.append_nil] at hfuel ⊢
    exact readItems_last (readValue_pretty (isExact_items.1 h).1 (by omega)
      (follows_newline outer _)) (skipSpace_newline outer _)
  | x, y :: ys, indent, outer, fuel + 1, rest, h, hfuel => by
    obtain ⟨hx, hys⟩ := isExact_items.1 h
    rw [itemLines_cons, List.length_append, List.length_cons, List.length_append] at hfuel
    exact readItems_pretty_cons (isExact_items.1 hys).1
      (fun rest hrest => readValue_pretty hx (by omega) hrest) (readItems_pretty hys (by omega))
termination_by structural _ _ _ _ fuel => fuel

/-- The text of members is read as the members, up to what follows the closing brace. -/
theorem readMembers_pretty : ∀ {k : String} {v : Json} {ms : List (String × Json)}
    {indent outer fuel : Nat} {rest : List Char}, (Json.obj ((k, v) :: ms)).IsExact limited →
    2 * (memberLines indent ((k, v) :: ms)).length < fuel →
    readMembers limited fuel (memberLines indent ((k, v) :: ms) ++
      (newline outer ++ '\x7d' :: rest)) = some ((k, v) :: ms, rest)
  | _, _, _, _, _, 0, _, _, hfuel => absurd hfuel (Nat.not_lt_zero _)
  | k, v, [], indent, outer, fuel + 1, rest, h, hfuel => by
    obtain ⟨-, hv, -⟩ := isExact_members.1 h
    simp only [memberLines, List.length_append, List.length_cons] at hfuel
    exact readMembers_pretty_singleton hv fun rest hrest => readValue_pretty hv (by omega) hrest
  | k, v, (k', v') :: ms, indent, outer, fuel + 1, rest, h, hfuel => by
    obtain ⟨-, hv, hms⟩ := isExact_members.1 h
    simp only [memberLines_cons, List.length_append, List.length_cons] at hfuel
    exact readMembers_pretty_cons hv (fun rest hrest => readValue_pretty hv (by omega) hrest)
      (readMembers_pretty hms (by omega))
termination_by structural _ _ _ _ _ fuel => fuel
end

/-- A value is read back from its text over several lines, key order and all. -/
theorem readChars?_prettyText {v : Json} (h : v.IsExact limited) :
    readChars? limited v.prettyText.toList = some v := by
  have hend : Follows [] := nofun
  have hread := readValue_pretty h (Nat.le_add_right (2 * (pretty 0 v).length) 2) hend
  have hskip := skipSpace_pretty h 0 []
  rw [List.append_nil] at hread hskip
  rw [prettyText, String.toList_ofList, readChars?, hskip, hread]
  rfl

end Voicemail.Json
