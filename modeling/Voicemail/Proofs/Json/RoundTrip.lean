import Voicemail.Proofs.Assoc
import Voicemail.Proofs.Json.Numerals
import Voicemail.Proofs.Json.Strings

/-!
# Values read back

A value is read back from its text as it was, from a stored text (`restore?_text`) and, if its
integers are not too long, from any (`read?_text`): the text of every value and of every list of
items or members is read up to what follows it (`readValue_write`, `readItems_write`,
`readMembers_write`). What a reader does in one step does not depend on the blanks between the
parts (`readItems_next`, `readMembers_next`). The readers count fuel, and each takes at least one
character for two of it. An object that is read has no key twice (`nodup_of_read?`).
-/

namespace Voicemail.Json

/-! ## What can be read back -/

mutual
/-- A value that a reader can give: its integers have no more digits than a numeral may have, if the
reader limits them, its doubles are in normal form, and no object has a key twice. -/
def Fits (limited : Bool) : Json → Prop
  | .null | .bool _ | .str _ => True
  | .int n => limited = true → n.natAbs < 10 ^ Text.maxNumeralDigits
  | .float x => x.IsDouble
  | .arr xs => AllFit limited xs
  | .obj ms => (Assoc.keys ms).Nodup ∧ MembersFit limited ms

/-- Items that a reader can give. -/
def AllFit (limited : Bool) : List Json → Prop
  | [] => True
  | x :: xs => x.Fits limited ∧ AllFit limited xs

/-- Members whose values a reader can give. -/
def MembersFit (limited : Bool) : List (String × Json) → Prop
  | [] => True
  | (_, x) :: ms => x.Fits limited ∧ MembersFit limited ms
end

mutual
/-- What a reader that limits integers gives, one that does not limit them can give too. -/
theorem Fits.unlimited : ∀ {v : Json}, v.Fits true → v.Fits false
  | .null, _ | .bool _, _ | .str _, _ => trivial
  | .int _, _ => nofun
  | .float _, h => h
  | .arr _, h => AllFit.unlimited h
  | .obj _, h => ⟨h.1, MembersFit.unlimited h.2⟩

/-- So can the items of an array, -/
theorem AllFit.unlimited : ∀ {xs : List Json}, AllFit true xs → AllFit false xs
  | [], _ => trivial
  | _ :: _, h => ⟨h.1.unlimited, AllFit.unlimited h.2⟩

/-- and the members of an object. -/
theorem MembersFit.unlimited : ∀ {ms : List (String × Json)},
    MembersFit true ms → MembersFit false ms
  | [], _ => trivial
  | _ :: _, h => ⟨h.1.unlimited, MembersFit.unlimited h.2⟩
end

/-- A value that can be stored and is read back by every reader: none of its integers is too
long. -/
def IsStorable (v : Json) : Prop := v.Fits true

/-! ## How texts start -/

/-- A character that starts a value. -/
def Starts (c : Char) : Prop := isSpace c = false ∧ c ≠ ']' ∧ c ≠ '\x7d'

instance (c : Char) : Decidable (Starts c) := inferInstanceAs (Decidable (_ ∧ _ ∧ _))

/-- A numeral without a sign starts with a digit, and a digit starts a value. -/
theorem starts_of_isDigit {c : Char} (h : c.isDigit = true) : Starts c := by
  refine ⟨?_, ?_, ?_⟩
  · by_contra hspace
    simp only [isSpace, Bool.not_eq_false, Bool.or_eq_true, decide_eq_true_eq] at hspace
    obtain ((rfl | rfl) | rfl) | rfl := hspace <;> cases h
  · rintro rfl
    cases h
  · rintro rfl
    cases h

variable {limited : Bool}

/-- The text of a value that can be read starts like a value. -/
theorem write_starts {v : Json} (h : v.Fits limited) :
    ∃ c cs, v.write .spaced = c :: cs ∧ Starts c := by
  cases v with
  | null => exact ⟨'n', _, rfl, by decide⟩
  | bool b => cases b <;> exact ⟨_, _, rfl, by decide⟩
  | int n =>
    cases n with
    | ofNat n =>
      obtain ⟨c, cs, hcs, hc⟩ := (isWhole_toDigits n).isDigit
      exact ⟨c, cs, hcs, starts_of_isDigit hc⟩
    | negSucc n => exact ⟨'-', _, rfl, by decide⟩
  | float x =>
    cases x with
    | nan => exact ⟨'N', _, rfl, by decide⟩
    | infinite negative => cases negative <;> exact ⟨_, _, rfl, by decide⟩
    | finite negative m e =>
      cases negative with
      | true => exact ⟨'-', _, rfl, by decide⟩
      | false =>
        have hrest : Follows [] := nofun
        obtain ⟨⟨c, cs, hcs, hc⟩, -⟩ := readNumber_writeMagnitude h hrest limited false
        exact ⟨c, cs, hcs, starts_of_isDigit hc⟩
  | str s => exact ⟨'"', _, rfl, by decide⟩
  | arr xs => exact ⟨'[', _, rfl, by decide⟩
  | obj ms => exact ⟨'\x7b', _, rfl, by decide⟩

/-- There is no white space to pass over before a character that starts a value. -/
theorem skipSpace_of_starts {c : Char} (h : Starts c) (s : List Char) :
    skipSpace (c :: s) = c :: s :=
  List.dropWhile_cons_of_neg (by simp [h.1])

/-- A text that starts like a value has no white space to pass over. -/
theorem skipSpace_append_of_starts {s : List Char} (h : ∃ c cs, s = c :: cs ∧ Starts c)
    (rest : List Char) : skipSpace (s ++ rest) = s ++ rest := by
  obtain ⟨c, cs, rfl, hc⟩ := h
  exact skipSpace_of_starts hc _

/-- A text that starts like a value has a character, which is enough for a step of a reader. -/
theorem length_pos_of_starts {s : List Char} (h : ∃ c cs, s = c :: cs ∧ Starts c) :
    0 < s.length := by
  obtain ⟨c, cs, rfl, -⟩ := h
  exact Nat.succ_pos _

/-! ## Values that hold no others -/

variable {fuel : Nat} {rest : List Char}

/-- What starts with a digit is read as a number, -/
theorem readValue_digit {c : Char} (hc : c.isDigit = true) (s : List Char) :
    readValue limited (fuel + 1) (c :: s) = readNumber limited false (c :: s) := by
  have hne (d : Char) (hd : d.isDigit = false) : c ≠ d := by
    rintro rfl
    rw [hc] at hd
    cases hd
  rw [readValue.eq_7 _ _ _ _ (hne '"' rfl) (hne '[' rfl) (hne '\x7b' rfl)
    fun _ _ h _ => hne '-' rfl h, if_pos hc]

/-- and so is what starts with a minus before a digit. -/
theorem readValue_negative {c : Char} (hc : c.isDigit = true) (s : List Char) :
    readValue limited (fuel + 1) ('-' :: c :: s) = readNumber limited true (c :: s) := by
  rw [readValue.eq_6, if_neg (by decide), if_pos hc]

/-- The text of null is read back, whatever follows it. -/
theorem readValue_null :
    readValue limited (fuel + 1) (write .spaced .null ++ rest) = some (.null, rest) :=
  rfl

/-- The texts of the truth values are read back, whatever follows them. -/
theorem readValue_bool (b : Bool) :
    readValue limited (fuel + 1) (write .spaced (.bool b) ++ rest) = some (.bool b, rest) := by
  cases b <;> rfl

/-- The text of an integer that the reader takes is read back, if no character of a number follows.
-/
theorem readValue_int {n : Int} (h : (Json.int n).Fits limited) (hrest : Follows rest) :
    readValue limited (fuel + 1) (write .spaced (.int n) ++ rest) = some (.int n, rest) := by
  rw [write]
  cases n with
  | ofNat n =>
    obtain ⟨c, cs, hcs, hc⟩ := (isWhole_toDigits n).isDigit
    have hread := readNumber_toDigits (k := n) h hrest false
    rw [hcs, List.cons_append] at hread
    rw [Text.writeInt, hcs, List.cons_append, readValue_digit hc, hread]
    rfl
  | negSucc n =>
    obtain ⟨c, cs, hcs, hc⟩ := (isWhole_toDigits (n + 1)).isDigit
    have hread := readNumber_toDigits (k := n + 1) h hrest true
    rw [hcs, List.cons_append] at hread
    rw [Text.writeInt, hcs, List.cons_append, List.cons_append, readValue_negative hc, hread]
    rfl

/-- The text of a double is read back, if no character of a number follows. -/
theorem readValue_float {x : Binary64} (h : (Json.float x).Fits limited) (hrest : Follows rest) :
    readValue limited (fuel + 1) (write .spaced (.float x) ++ rest) = some (.float x, rest) := by
  cases x with
  | nan => rfl
  | infinite negative => cases negative <;> rfl
  | finite negative m e =>
    obtain ⟨⟨c, cs, hcs, hc⟩, hread⟩ := readNumber_writeMagnitude h hrest limited negative
    rw [write, Binary64.write]
    rw [hcs, List.cons_append] at hread
    cases negative with
    | true =>
      rw [if_pos rfl, hcs, List.singleton_append, List.cons_append, List.cons_append,
        readValue_negative hc, hread]
    | false =>
      rw [if_neg Bool.false_ne_true, hcs, List.nil_append, List.cons_append, readValue_digit hc,
        hread]

/-- A quoted text is read back if every character's escape is. -/
theorem readValue_str {escape : Char → List Char} (h : ReadsBack escape) (t : String) :
    readValue limited (fuel + 1) (writeString escape t ++ rest) = some (.str t, rest) := by
  rw [writeString, List.append_assoc, List.cons_append, readValue.eq_3, List.singleton_append,
    h.readString]
  rfl

/-! ## Steps of the readers

What stands between items and members is passed over by each reader, whatever it is; only the
separator behind it counts.
-/

section Steps

variable {s t u r w : List Char} {c : Char} {cs : List Char} {k : String} {v x : Json}
  {xs : List Json} {ms : List (String × Json)}

/-- The items end after the one before the closing bracket. -/
theorem readItems_last (hx : readValue limited fuel s = some (x, t))
    (ht : skipSpace t = ']' :: rest) : readItems limited (fuel + 1) s = some ([x], rest) := by
  simp only [readItems.eq_2, hx, ht, Option.bind_eq_bind, Option.bind_some, Option.pure_def]

/-- After a comma, with or without white space, the items go on. -/
theorem readItems_next (hx : readValue limited fuel s = some (x, t))
    (ht : skipSpace t = ',' :: u) (hxs : readItems limited fuel (skipSpace u) = some (xs, rest)) :
    readItems limited (fuel + 1) s = some (x :: xs, rest) := by
  simp only [readItems.eq_2, hx, ht, hxs, Option.bind_eq_bind, Option.bind_some, Option.pure_def]

/-- The members end after the one before the closing brace. -/
theorem readMembers_last (hk : readString s = some (k, t)) (ht : skipSpace t = ':' :: u)
    (hv : readValue limited fuel (skipSpace u) = some (v, r)) (hr : skipSpace r = '\x7d' :: rest) :
    readMembers limited (fuel + 1) ('"' :: s) = some ([(k, v)], rest) := by
  simp only [readMembers.eq_2, hk, ht, hv, hr, Option.bind_eq_bind, Option.bind_some,
    Option.pure_def]

/-- After a comma, with or without white space, the members go on. -/
theorem readMembers_next (hk : readString s = some (k, t)) (ht : skipSpace t = ':' :: u)
    (hv : readValue limited fuel (skipSpace u) = some (v, r)) (hr : skipSpace r = ',' :: w)
    (hms : readMembers limited fuel (skipSpace w) = some (ms, rest)) :
    readMembers limited (fuel + 1) ('"' :: s) = some ((k, v) :: ms, rest) := by
  simp only [readMembers.eq_2, hk, ht, hv, hr, hms, Option.bind_eq_bind, Option.bind_some,
    Option.pure_def]

/-- An array that is not empty is read as its items. -/
theorem readValue_items (hs : skipSpace s = c :: cs) (hc : Starts c)
    (hread : readItems limited fuel (c :: cs) = some (xs, rest)) :
    readValue limited (fuel + 1) ('[' :: s) = some (.arr xs, rest) := by
  rw [readValue.eq_4, hs]
  split
  next heq => exact absurd (List.cons.inj heq).1 hc.2.1
  next => rw [hread]; rfl

/-- An object that is not empty is read as its members. -/
theorem readValue_members (hs : skipSpace s = '"' :: cs) (hkeys : (Assoc.keys ms).Nodup)
    (hread : readMembers limited fuel ('"' :: cs) = some (ms, rest)) :
    readValue limited (fuel + 1) ('\x7b' :: s) = some (.obj ms, rest) := by
  rw [readValue.eq_5, hs]
  split
  next heq => cases (List.cons.inj heq).1
  next =>
    rw [hread]
    show some (Json.obj (Assoc.ofPairs ms), rest) = _
    rw [Assoc.ofPairs_of_nodup hkeys]

end Steps

/-! ## Values that hold others -/

/-- Commas, closing brackets and braces, and line ends may follow every value. -/
theorem follows_cons {c : Char} (h : c = ',' ∨ c = ']' ∨ c = '\x7d' ∨ c = '\n') (s : List Char) :
    Follows (c :: s) := by
  rintro _ ⟨⟩
  exact h

/-- White space passes over a blank. -/
theorem skipSpace_blank (s : List Char) : skipSpace (' ' :: s) = skipSpace s := rfl

/-- There is no white space to pass over before the text of a value. -/
theorem skipSpace_write {v : Json} (h : v.Fits limited) (s : List Char) :
    skipSpace (write .spaced v ++ s) = write .spaced v ++ s :=
  skipSpace_append_of_starts (write_starts h) s

/-- Items are written with a comma and a blank between them. -/
theorem writeItems_cons (x y : Json) (ys : List Json) :
    writeItems .spaced (x :: y :: ys) =
      write .spaced x ++ ',' :: ' ' :: writeItems .spaced (y :: ys) := by
  rw [writeItems, List.append_assoc]
  · rfl
  · nofun

/-- Members are written with a comma and a blank between them, and the same after a key with a
colon. -/
theorem writeMembers_cons (k : String) (v : Json) (m : String × Json) (ms : List (String × Json)) :
    writeMembers .spaced ((k, v) :: m :: ms) =
      '"' :: (k.toList.flatMap escapeAscii ++
        '"' :: ':' :: ' ' ::
          (write .spaced v ++ ',' :: ' ' :: writeMembers .spaced (m :: ms))) := by
  rw [writeMembers, writeString]
  · simp [Style.spaced]
  · nofun

/-- A single member is its quoted key, a colon, a blank and its value. -/
theorem writeMembers_singleton (k : String) (v : Json) :
    writeMembers .spaced [(k, v)] =
      '"' :: (k.toList.flatMap escapeAscii ++ '"' :: ':' :: ' ' :: write .spaced v) := by
  simp [writeMembers, writeString, Style.spaced]

/-- Items from the first one on start like a value. -/
theorem writeItems_starts {x : Json} (h : x.Fits limited) (xs : List Json) :
    ∃ c cs, writeItems .spaced (x :: xs) = c :: cs ∧ Starts c := by
  obtain ⟨c, cs, hcs, hc⟩ := write_starts h
  cases xs with
  | nil => exact ⟨c, cs, hcs, hc⟩
  | cons y ys => exact ⟨c, _, by rw [writeItems_cons, hcs, List.cons_append], hc⟩

/-- There is no white space to pass over before the text of items, -/
theorem skipSpace_writeItems {x : Json} (hx : x.Fits limited) (xs : List Json) (s : List Char) :
    skipSpace (writeItems .spaced (x :: xs) ++ s) = writeItems .spaced (x :: xs) ++ s :=
  skipSpace_append_of_starts (writeItems_starts hx xs) s

/-- nor before that of members. -/
theorem skipSpace_writeMembers (m : String × Json) (ms : List (String × Json)) (s : List Char) :
    skipSpace (writeMembers .spaced (m :: ms) ++ s) = writeMembers .spaced (m :: ms) ++ s := by
  cases ms <;> rfl

/-- An array with items is read back if its items are. -/
theorem readValue_arr {x : Json} {xs : List Json} (hx : x.Fits limited)
    (hread : readItems limited fuel (writeItems .spaced (x :: xs) ++ ']' :: rest) =
      some (x :: xs, rest)) :
    readValue limited (fuel + 1) (write .spaced (.arr (x :: xs)) ++ rest) =
      some (.arr (x :: xs), rest) := by
  obtain ⟨c, cs, hcs, hc⟩ := writeItems_starts hx xs
  rw [hcs, List.cons_append] at hread
  have htext : write .spaced (.arr (x :: xs)) ++ rest = '[' :: c :: (cs ++ ']' :: rest) := by
    simp [write, hcs]
  rw [htext]
  exact readValue_items (skipSpace_of_starts hc _) hc hread

/-- An object with members is read back if its members are and no key is there twice. -/
theorem readValue_obj {m : String × Json} {ms : List (String × Json)}
    (hkeys : (Assoc.keys (m :: ms)).Nodup)
    (hread : readMembers limited fuel (writeMembers .spaced (m :: ms) ++ '\x7d' :: rest) =
      some (m :: ms, rest)) :
    readValue limited (fuel + 1) (write .spaced (.obj (m :: ms)) ++ rest) =
      some (.obj (m :: ms), rest) := by
  obtain ⟨cs, hcs⟩ : ∃ cs, writeMembers .spaced (m :: ms) = '"' :: cs := by
    cases ms <;> exact ⟨_, rfl⟩
  rw [hcs, List.cons_append] at hread
  have htext : write .spaced (.obj (m :: ms)) ++ rest =
      '\x7b' :: '"' :: (cs ++ '\x7d' :: rest) := by
    simp [write, hcs]
  rw [htext]
  exact readValue_members (skipSpace_of_starts (by decide) _) hkeys hread

/-- Items are read back if the first one and those after it are. -/
theorem readItems_cons {x y : Json} {ys : List Json} (hy : y.Fits limited)
    (hx : ∀ rest, Follows rest → readValue limited fuel (write .spaced x ++ rest) = some (x, rest))
    (hread : readItems limited fuel (writeItems .spaced (y :: ys) ++ ']' :: rest) =
      some (y :: ys, rest)) :
    readItems limited (fuel + 1) (writeItems .spaced (x :: y :: ys) ++ ']' :: rest) =
      some (x :: y :: ys, rest) := by
  rw [writeItems_cons, List.append_assoc, List.cons_append, List.cons_append]
  refine readItems_next (hx _ (follows_cons (.inl rfl) _)) rfl ?_
  rw [skipSpace_blank, skipSpace_writeItems hy, hread]

/-- A single member is read back if its value is, up to the closing brace. -/
theorem readMembers_singleton {k : String} {v : Json} (hv : v.Fits limited)
    (hread : readValue limited fuel (write .spaced v ++ '\x7d' :: rest) =
      some (v, '\x7d' :: rest)) :
    readMembers limited (fuel + 1) (writeMembers .spaced [(k, v)] ++ '\x7d' :: rest) =
      some ([(k, v)], rest) := by
  rw [writeMembers_singleton, List.cons_append, List.append_assoc, List.cons_append,
    List.cons_append, List.cons_append]
  have hvalue := hread
  rw [← skipSpace_write hv, ← skipSpace_blank] at hvalue
  exact readMembers_last (readString_write k _) rfl hvalue rfl

/-- Members are read back if the first one's value and those after it are. -/
theorem readMembers_cons {k : String} {v : Json} {m : String × Json} {ms : List (String × Json)}
    (hv : v.Fits limited)
    (hvalue : ∀ rest, Follows rest →
      readValue limited fuel (write .spaced v ++ rest) = some (v, rest))
    (hread : readMembers limited fuel (writeMembers .spaced (m :: ms) ++ '\x7d' :: rest) =
      some (m :: ms, rest)) :
    readMembers limited (fuel + 1) (writeMembers .spaced ((k, v) :: m :: ms) ++ '\x7d' :: rest) =
      some ((k, v) :: m :: ms, rest) := by
  rw [writeMembers_cons, List.cons_append, List.append_assoc, List.cons_append, List.cons_append,
    List.cons_append, List.append_assoc, List.cons_append, List.cons_append]
  have hfirst (s : List Char) : readValue limited fuel (skipSpace (' ' ::
      (write .spaced v ++ ',' :: s))) = some (v, ',' :: s) := by
    rw [skipSpace_blank, skipSpace_write hv, hvalue _ (follows_cons (.inl rfl) s)]
  rw [← skipSpace_writeMembers, ← skipSpace_blank] at hread
  exact readMembers_next (readString_write k _) rfl (hfirst _) rfl hread

/-! ## The round trip -/

mutual
/-- The text of a value is read as the value, up to what follows it. -/
theorem readValue_write : ∀ {v : Json} {fuel : Nat} {rest : List Char}, v.Fits limited →
    2 * (write .spaced v).length ≤ fuel → Follows rest →
    readValue limited fuel (write .spaced v ++ rest) = some (v, rest)
  | v, 0, _, h, hfuel, _ => by
    have := length_pos_of_starts (write_starts h)
    omega
  | .null, fuel + 1, rest, _, _, _ => readValue_null
  | .bool b, fuel + 1, rest, _, _, _ => readValue_bool b
  | .int n, fuel + 1, rest, h, _, hrest => readValue_int h hrest
  | .float x, fuel + 1, rest, h, _, hrest => readValue_float h hrest
  | .str t, fuel + 1, rest, _, _, _ => readValue_str readsBack_escapeAscii t
  | .arr [], fuel + 1, rest, _, _, _ => rfl
  | .arr (x :: xs), fuel + 1, rest, h, hfuel, hrest => by
    -- The brackets pay for the fuel that the readers of the array and of its items take.
    obtain ⟨hx, hxs⟩ := h
    refine readValue_arr hx (readItems_write hx hxs ?_)
    simp only [write, List.length_append, List.length_cons, List.length_nil] at hfuel
    omega
  | .obj [], fuel + 1, rest, _, _, _ => rfl
  | .obj ((k, v) :: ms), fuel + 1, rest, h, hfuel, hrest => by
    obtain ⟨hkeys, hv, hms⟩ := h
    refine readValue_obj hkeys (readMembers_write hv hms ?_)
    simp only [write, List.length_append, List.length_cons, List.length_nil] at hfuel
    omega

/-- The text of items is read as the items, up to what follows the closing bracket. -/
theorem readItems_write : ∀ {x : Json} {xs : List Json} {fuel : Nat} {rest : List Char},
    x.Fits limited → AllFit limited xs → 2 * (writeItems .spaced (x :: xs)).length < fuel →
    readItems limited fuel (writeItems .spaced (x :: xs) ++ ']' :: rest) = some (x :: xs, rest)
  | _, _, 0, _, _, _, hfuel => absurd hfuel (Nat.not_lt_zero _)
  | x, [], fuel + 1, rest, h, _, hfuel =>
    readItems_last (readValue_write h (by rw [writeItems] at hfuel; omega)
      (follows_cons (.inr (.inl rfl)) _)) rfl
  | x, y :: ys, fuel + 1, rest, h, hs, hfuel => by
    rw [writeItems_cons, List.length_append, List.length_cons, List.length_cons] at hfuel
    exact readItems_cons hs.1 (fun rest hrest => readValue_write h (by omega) hrest)
      (readItems_write hs.1 hs.2 (by omega))

/-- The text of members is read as the members, up to what follows the closing brace. -/
theorem readMembers_write : ∀ {k : String} {v : Json} {ms : List (String × Json)} {fuel : Nat}
    {rest : List Char}, v.Fits limited → MembersFit limited ms →
    2 * (writeMembers .spaced ((k, v) :: ms)).length < fuel →
    readMembers limited fuel (writeMembers .spaced ((k, v) :: ms) ++ '\x7d' :: rest) =
      some ((k, v) :: ms, rest)
  | _, _, _, 0, _, _, _, hfuel => absurd hfuel (Nat.not_lt_zero _)
  | k, v, [], fuel + 1, rest, h, _, hfuel => by
    simp only [writeMembers_singleton, List.length_append, List.length_cons] at hfuel
    exact readMembers_singleton h
      (readValue_write h (by omega) (follows_cons (.inr (.inr (.inl rfl))) _))
  | k, v, (k', v') :: ms, fuel + 1, rest, h, hs, hfuel => by
    simp only [writeMembers_cons, List.length_append, List.length_cons] at hfuel
    exact readMembers_cons h (fun rest hrest => readValue_write h (by omega) hrest)
      (readMembers_write hs.1 hs.2 (by omega))
end

/-- A value is read back from its text by a reader that can give it. -/
theorem readChars?_write {v : Json} (h : v.Fits limited) :
    readChars? limited (write .spaced v) = some v := by
  have hend : Follows [] := nofun
  have hread := readValue_write h (Nat.le_add_right _ 2) hend
  have hskip := skipSpace_write h []
  rw [List.append_nil] at hread hskip
  rw [readChars?, hskip, hread]
  rfl

/-- A value that can be stored is read back from its text. -/
theorem read?_text {v : Json} (h : v.IsStorable) : read? v.text = some v := by
  rw [read?, text, String.toList_ofList, readChars?_write h]

/-- Every value is read back from the text that was stored for it. -/
theorem restore?_text {v : Json} (h : v.Fits false) : restore? v.text = some v := by
  rw [restore?, text, String.toList_ofList, readChars?_write h]

/-! ## Objects -/

/-- No number is an object. -/
theorem readNumber_ne_obj {limited negative : Bool} {s rest : List Char}
    {ms : List (String × Json)} : readNumber limited negative s ≠ some (.obj ms, rest) := by
  intro h
  unfold readNumber at h
  split at h
  dsimp only at h
  split at h
  · cases h
  · split at h
    · split at h
      · cases h
      · cases h
    · cases h

/-- No word is an object. -/
theorem readWord_ne_obj {s rest : List Char} {ms : List (String × Json)} :
    readWord s ≠ some (.obj ms, rest) := by
  intro h
  simp [readWord, Option.orElse_eq_orElse, Option.orElse_eq_or, Option.or_eq_some_iff] at h

/-- An object that was read has no key twice. -/
theorem nodup_of_readValue {limited : Bool} {fuel : Nat} {s rest : List Char}
    {ms : List (String × Json)} (h : readValue limited fuel s = some (.obj ms, rest)) :
    (Assoc.keys ms).Nodup := by
  cases fuel with
  | zero => cases h
  | succ fuel =>
    unfold readValue at h
    split at h
    · cases h
    · obtain ⟨_, -, h⟩ := Option.map_eq_some_iff.1 h
      cases h
    · split at h
      · cases h
      · obtain ⟨_, -, h⟩ := Option.map_eq_some_iff.1 h
        cases h
    · split at h
      · cases h
        exact .nil
      · obtain ⟨⟨pairs, _⟩, -, h⟩ := Option.map_eq_some_iff.1 h
        cases h
        exact (Assoc.ofPairs_spec pairs).1
    · split at h
      · exact absurd h readNumber_ne_obj
      · split at h
        · split at h
          · exact absurd h readNumber_ne_obj
          · exact absurd h readWord_ne_obj
        · exact absurd h readWord_ne_obj

/-- An object that was read from a whole text has no key twice. -/
theorem nodup_of_read? {text : String} {ms : List (String × Json)}
    (h : read? text = some (.obj ms)) : (Assoc.keys ms).Nodup := by
  unfold read? readChars? at h
  split at h
  next v rest hread =>
    split at h
    · cases h
      exact nodup_of_readValue hread
    · cases h
  · cases h

end Voicemail.Json
