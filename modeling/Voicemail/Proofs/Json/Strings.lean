import Mathlib.Tactic.IntervalCases
import Voicemail.Json.Reader
import Voicemail.Json.Writer

/-!
# Strings read back

A string is read in two steps, code units and then characters, and every way to write it that both
steps undo, character by character, reads back (`ReadsBack.readString`). In ASCII the units of a
character are those of UTF-16 (`readUnits_escapeAscii`, `joinSurrogates_units`); where only controls
are escaped each character is a unit of its own (`readUnits_escapeControl`, `joinSurrogates_toNat`).
-/

namespace Voicemail.Json

/-- The UTF-16 code units of a character. -/
def units (c : Char) : List Nat :=
  if c.toNat < 0x10000 then [c.toNat]
  else [0xd800 + (c.toNat - 0x10000) / 0x400, 0xdc00 + (c.toNat - 0x10000) % 0x400]

/-! ## Escapes -/

/-- A hexadecimal digit is read as its value. -/
theorem hexadecimal?_digitChar {n : Nat} (hn : n < 16) :
    Text.hexadecimal? (Nat.digitChar n) = some n := by
  interval_cases n <;> rfl

/-- Four hexadecimal digits are read as the code unit that they write. -/
theorem hex4?_hexDigits {n : Nat} (hn : n < 0x10000) :
    ∃ a b c d, Text.hexDigits 4 n = [a, b, c, d] ∧ hex4? a b c d = some n := by
  have hdigit (k : Nat) : Text.hexadecimal? (Nat.digitChar (k % 16)) = some (k % 16) :=
    hexadecimal?_digitChar (Nat.mod_lt k (by norm_num))
  refine ⟨_, _, _, _, rfl, ?_⟩
  simp only [hex4?, hdigit, Option.bind_eq_bind, Option.bind_some, Option.pure_def,
    Option.some.injEq]
  omega

/-- The escape of a code unit is read as the unit. -/
theorem readUnits_unitEscape {n : Nat} (hn : n < 0x10000) (s : List Char) :
    readUnits (unitEscape n ++ s) = (readUnits s).map fun x => (n :: x.1, x.2) := by
  obtain ⟨a, b, c, d, hdigits, hhex⟩ := hex4?_hexDigits hn
  simp only [unitEscape, hdigits, List.cons_append, List.nil_append, readUnits, hhex]
  cases readUnits s <;> rfl

/-- An escape of one letter is read as its code point. -/
theorem readUnits_escaped {x : Char} {n : Nat} (hx : x ≠ 'u') (h : shortUnescape? x = some n)
    (s : List Char) :
    readUnits ('\\' :: x :: s) = (readUnits s).map fun y => (n :: y.1, y.2) := by
  rw [readUnits.eq_4 _ _ fun _ _ _ _ _ hu _ => hx hu, h]
  cases readUnits s <;> rfl

/-- A short escape is read as its character. -/
theorem readUnits_shortEscape {c : Char} {e : List Char} (h : shortEscape? c = some e)
    (s : List Char) :
    readUnits (e ++ s) = (readUnits s).map fun x => (c.toNat :: x.1, x.2) := by
  simp only [shortEscape?] at h
  split_ifs at h with hc hc hc hc hc hc hc <;> cases h <;> subst hc <;>
    exact readUnits_escaped (by decide) rfl s

/-- A character that stands for itself is read as its code point. -/
theorem readUnits_plain {c : Char} (hquote : c ≠ '"') (hescape : c ≠ '\\') (hc : ' ' ≤ c)
    (s : List Char) :
    readUnits (c :: s) = (readUnits s).map fun x => (c.toNat :: x.1, x.2) := by
  rw [readUnits.eq_5 _ _ hquote (fun _ _ _ _ _ h _ => hescape h) fun _ _ h _ => hescape h]
  have hcontrol : ¬c < ' ' := Char.not_lt.2 hc
  simp only [hcontrol, hescape, decide_false, Bool.or_self, Bool.false_eq_true, if_false]
  cases readUnits s <;> rfl

/-- The highest code point bounds every character. -/
theorem toNat_lt (c : Char) : c.toNat < 0x110000 := by
  obtain h | h := c.valid
  · exact Nat.lt_trans h (by norm_num)
  · exact h.2

/-- A character of the basic plane is one code unit. -/
theorem units_of_lt {c : Char} (h : c.toNat < 0x10000) : units c = [c.toNat] := if_pos h

/-- Characters with short escapes are in the basic plane. -/
theorem units_of_shortEscape {c : Char} {e : List Char} (h : shortEscape? c = some e) :
    units c = [c.toNat] := by
  simp only [shortEscape?] at h
  split_ifs at h with hc hc hc hc hc hc hc <;> subst hc <;> rfl

/-- A character of a string is read as its code units. -/
theorem readUnits_escapeAscii (c : Char) (s : List Char) :
    readUnits (escapeAscii c ++ s) = (readUnits s).map fun x => (units c ++ x.1, x.2) := by
  rw [escapeAscii]
  cases hshort : shortEscape? c with
  | some e =>
    rw [units_of_shortEscape hshort]
    exact readUnits_shortEscape hshort s
  | none =>
    dsimp only
    split_ifs with hplain hsmall
    · have hquote : c ≠ '"' := by
        rintro rfl
        cases hshort
      have hescape : c ≠ '\\' := by
        rintro rfl
        cases hshort
      rw [units_of_lt (Nat.lt_of_le_of_lt hplain.2 (by decide))]
      exact readUnits_plain hquote hescape hplain.1 s
    · rw [units_of_lt hsmall]
      exact readUnits_unitEscape hsmall s
    · have hlt := toNat_lt c
      rw [units, if_neg hsmall, List.append_assoc, readUnits_unitEscape (by omega),
        readUnits_unitEscape (by omega), Option.map_map]
      rfl

/-- Where only controls are escaped, a character is read as one unit, of any size. -/
theorem readUnits_escapeControl (c : Char) (s : List Char) :
    readUnits (escapeControl c ++ s) = (readUnits s).map fun x => (c.toNat :: x.1, x.2) := by
  rw [escapeControl]
  cases hshort : shortEscape? c with
  | some e => exact readUnits_shortEscape hshort s
  | none =>
    dsimp only
    split_ifs with hcontrol
    · have hsmall : c.toNat < 0x10000 := Nat.lt_trans hcontrol (by decide)
      exact readUnits_unitEscape hsmall s
    · have hquote : c ≠ '"' := by
        rintro rfl
        cases hshort
      have hescape : c ≠ '\\' := by
        rintro rfl
        cases hshort
      exact readUnits_plain hquote hescape (Char.not_lt.1 hcontrol) s

/-! ## Surrogates -/

/-- The number of a character is no half of a character. -/
theorem not_surrogate (c : Char) :
    isHighSurrogate c.toNat = false ∧ isLowSurrogate c.toNat = false := by
  have hvalid : c.toNat < 0xd800 ∨ 0xdfff < c.toNat := c.valid.imp_right And.left
  simp only [isHighSurrogate, isLowSurrogate, Bool.and_eq_false_iff, decide_eq_false_iff_not]
  omega

/-- The number of a character stands for the character alone. -/
theorem joinSurrogates_toNat (c : Char) (ns : List Nat) :
    joinSurrogates (c.toNat :: ns) = c :: joinSurrogates ns := by
  obtain ⟨hhigh, hlow⟩ := not_surrogate c
  cases ns <;>
    simp only [joinSurrogates, hhigh, hlow, Bool.or_self, Bool.false_and, Bool.false_eq_true,
      if_false, Char.ofNat_toNat]

/-- The units of a character join to it. -/
theorem joinSurrogates_units (c : Char) (ns : List Nat) :
    joinSurrogates (units c ++ ns) = c :: joinSurrogates ns := by
  rw [units]
  split_ifs with hsmall
  · exact joinSurrogates_toNat c ns
  · have hlt := toNat_lt c
    have hpair : isHighSurrogate (0xd800 + (c.toNat - 0x10000) / 0x400) = true ∧
        isLowSurrogate (0xdc00 + (c.toNat - 0x10000) % 0x400) = true := by
      simp only [isHighSurrogate, isLowSurrogate, Bool.and_eq_true, decide_eq_true_eq]
      omega
    have hjoin : 0x10000 + (0xd800 + (c.toNat - 0x10000) / 0x400 - 0xd800) * 0x400 +
        (0xdc00 + (c.toNat - 0x10000) % 0x400 - 0xdc00) = c.toNat := by omega
    simp only [List.cons_append, List.nil_append, joinSurrogates, hpair.1, hpair.2, Bool.and_self,
      if_true, hjoin, Char.ofNat_toNat]

/-! ## Whole strings -/

/-- A way to write characters that the reader undoes: what is written for a character is read as
units that join to the character, whatever stands behind it. -/
def ReadsBack (escape : Char → List Char) : Prop :=
  ∀ c, ∃ ns, (∀ s, readUnits (escape c ++ s) = (readUnits s).map fun x => (ns ++ x.1, x.2)) ∧
    ∀ ms, joinSurrogates (ns ++ ms) = c :: joinSurrogates ms

/-- The escapes of the form on one line are undone by the reader, -/
theorem readsBack_escapeAscii : ReadsBack escapeAscii := fun c =>
  ⟨units c, readUnits_escapeAscii c, joinSurrogates_units c⟩

/-- and so are those of the form over several lines. -/
theorem readsBack_escapeControl : ReadsBack escapeControl := fun c =>
  ⟨[c.toNat], readUnits_escapeControl c, joinSurrogates_toNat c⟩

variable {escape : Char → List Char}

/-- The characters of a text are read up to its closing quote. -/
theorem ReadsBack.readUnits (h : ReadsBack escape) (cs s : List Char) :
    ∃ ns, Json.readUnits (cs.flatMap escape ++ '"' :: s) = some (ns, s) ∧
      joinSurrogates ns = cs := by
  induction cs with
  | nil => exact ⟨[], rfl, rfl⟩
  | cons c cs ih =>
    obtain ⟨ns, hread, hjoin⟩ := ih
    obtain ⟨ms, hunits, hchar⟩ := h c
    refine ⟨ms ++ ns, ?_, by rw [hchar, hjoin]⟩
    rw [List.flatMap_cons, List.append_assoc, hunits, hread]
    rfl

/-- What is written for a string is read as the string. -/
theorem ReadsBack.readString (h : ReadsBack escape) (t : String) (s : List Char) :
    Json.readString (t.toList.flatMap escape ++ '"' :: s) = some (t, s) := by
  obtain ⟨ns, hread, hjoin⟩ := h.readUnits t.toList s
  simp only [Json.readString, hread, hjoin, String.ofList_toList, Option.bind_eq_bind,
    Option.bind_some, Option.pure_def]

/-- What is written for a string in ASCII is read as the string. -/
theorem readString_write (t : String) (s : List Char) :
    readString (t.toList.flatMap escapeAscii ++ '"' :: s) = some (t, s) :=
  readsBack_escapeAscii.readString t s

end Voicemail.Json
