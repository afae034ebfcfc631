import Mathlib.Data.List.DropRight
import Mathlib.Data.Nat.Digits.Defs
import Voicemail.Text.Numeral

/-!
# Integer numerals

A numeral is blanks, a sign if there is one, decimal digits of any script with single underscores
between them, and blanks; it has at most 4300 digits, and its number is that of the digits to the
base ten (`IsNumeral`). Reading accepts exactly the numerals and gives their number
(`readInt?_eq_some_iff`), so every way to spell a natural number is read as that number
(`IsSpelling.isNumeral`).
-/

namespace Voicemail.Text

/-! ## Runs of digits -/

/-- A text of some characters in order, with an underscore between two of them or none. -/
inductive Underscored : List Char → List Char → Prop
  | last (c : Char) : Underscored [c] [c]
  | next (c : Char) {ds s : List Char} : Underscored ds s → Underscored (c :: ds) (c :: s)
  | underscore (c : Char) {ds s : List Char} :
    Underscored ds s → Underscored (c :: ds) (c :: '_' :: s)

/-- It begins with the first of them. -/
theorem Underscored.exists_cons {ds s : List Char} (h : Underscored ds s) :
    ∃ c ds' s', ds = c :: ds' ∧ s = c :: s' := by
  cases h with
  | last | next | underscore => exact ⟨_, _, _, rfl, rfl⟩

/-- It ends with the last of them. -/
theorem Underscored.getLast?_eq {ds s : List Char} (h : Underscored ds s) :
    s.getLast? = ds.getLast? := by
  induction h with
  | last c => rfl
  | next c h ih =>
    obtain ⟨c', ds', s', rfl, rfl⟩ := h.exists_cons
    rw [List.getLast?_cons_cons, List.getLast?_cons_cons, ih]
  | underscore c h ih =>
    obtain ⟨c', ds', s', rfl, rfl⟩ := h.exists_cons
    rw [List.getLast?_cons_cons, List.getLast?_cons_cons, List.getLast?_cons_cons, ih]

/-- What stands in it is one of them, or an underscore. -/
theorem Underscored.mem_or_eq {ds s : List Char} (h : Underscored ds s) {c : Char} (hc : c ∈ s) :
    c ∈ ds ∨ c = '_' := by
  induction h with
  | last d => exact .inl hc
  | next d h ih =>
    obtain rfl | hc := List.mem_cons.1 hc
    · exact .inl (.head _)
    · exact (ih hc).imp_left (.tail _)
  | underscore d h ih =>
    obtain rfl | hc := List.mem_cons.1 hc
    · exact .inl (.head _)
    · obtain rfl | hc := List.mem_cons.1 hc
      · exact .inr rfl
      · exact (ih hc).imp_left (.tail _)

/-- A digit that does not follow an underscore and is not the last. -/
theorem digitRun?_cons {c d : Char} (hd : d ≠ '_') (s : List Char) :
    digitRun? (c :: d :: s) = do return (← decimal? c) :: (← digitRun? (d :: s)) := by
  rw [digitRun?]
  · rintro ⟨⟩
  · rintro rest ⟨⟩
    exact hd rfl

/-- Characters that have values are digits. -/
theorem isSome_of_map_eq {ds : List Char} {vs : List Nat} (h : ds.map decimal? = vs.map some)
    {c : Char} (hc : c ∈ ds) : (decimal? c).isSome = true := by
  have hmem : decimal? c ∈ vs.map some := h ▸ List.mem_map_of_mem hc
  obtain ⟨v, -, hv⟩ := List.mem_map.1 hmem
  rw [← hv, Option.isSome_some]

/-- The digits that are read are those between which single underscores stand. -/
theorem digitRun?_eq_some_iff {s : List Char} {vs : List Nat} :
    digitRun? s = some vs ↔ ∃ ds, Underscored ds s ∧ ds.map decimal? = vs.map some := by
  constructor
  · intro h
    induction s using digitRun?.induct generalizing vs with
    | case1 => cases h
    | case2 c =>
      obtain ⟨v, hv, rfl⟩ := Option.map_eq_some_iff.1 h
      exact ⟨[c], .last c, by simp [hv]⟩
    | case3 c rest ih =>
      simp only [digitRun?, Option.bind_eq_bind, Option.bind_eq_some_iff, Option.pure_def,
        Option.some.injEq] at h
      obtain ⟨v, hv, vs', hvs, rfl⟩ := h
      obtain ⟨ds, hds, hmap⟩ := ih hvs
      exact ⟨c :: ds, .underscore c hds, by simp [hv, hmap]⟩
    | case4 c rest hne hunderscore ih =>
      obtain _ | ⟨d, rest⟩ := rest
      · exact absurd rfl hne
      · rw [digitRun?_cons fun hd => hunderscore rest (hd ▸ rfl)] at h
        simp only [Option.bind_eq_bind, Option.bind_eq_some_iff, Option.pure_def,
          Option.some.injEq] at h
        obtain ⟨v, hv, vs', hvs, rfl⟩ := h
        obtain ⟨ds, hds, hmap⟩ := ih hvs
        exact ⟨c :: ds, .next c hds, by simp [hv, hmap]⟩
  · rintro ⟨ds, h, hmap⟩
    induction h generalizing vs with
    | last c =>
      obtain ⟨v, rfl, hv⟩ := List.map_eq_singleton_iff.1 hmap.symm
      rw [digitRun?, ← hv]
      rfl
    | next c h ih =>
      obtain ⟨v, vs', rfl, hv, hrest⟩ := List.map_eq_cons_iff.1 hmap.symm
      obtain ⟨d, ds', s', rfl, rfl⟩ := h.exists_cons
      -- what follows begins with a digit, so that it is not read as an underscore
      have hd : d ≠ '_' := by
        rintro rfl
        exact absurd (isSome_of_map_eq hrest.symm (.head _)) (by decide)
      rw [digitRun?_cons hd, ih hrest.symm, ← hv]
      rfl
    | underscore c h ih =>
      obtain ⟨v, vs', rfl, hv, hrest⟩ := List.map_eq_cons_iff.1 hmap.symm
      rw [digitRun?, ih hrest.symm, ← hv]
      rfl

/-! ## White space -/

/-- The characters that Unicode counts as white space. -/
def whiteSpace : List Char :=
  ['\t', '\n', '\x0b', '\x0c', '\r', ' ', '\u0085', '\u00a0', '\u1680', '\u2000', '\u2001',
    '\u2002', '\u2003', '\u2004', '\u2005', '\u2006', '\u2007', '\u2008', '\u2009', '\u200a',
    '\u2028', '\u2029', '\u202f', '\u205f', '\u3000']

/-- They are the ones that may surround a numeral. -/
theorem isNumeralBlank_iff {c : Char} : isNumeralBlank c = true ↔ c ∈ whiteSpace := by
  have hrange {a b : Char} (hall : ∀ k ≤ b.toNat - a.toNat, Char.ofNat (a.toNat + k) ∈ whiteSpace)
      (ha : a ≤ c) (hb : c ≤ b) : c ∈ whiteSpace := by
    have hlow : a.toNat ≤ c.toNat := ha
    have hhigh : c.toNat ≤ b.toNat := hb
    have hmem := hall (c.toNat - a.toNat) (by omega)
    rwa [Nat.add_sub_cancel' hlow, Char.ofNat_toNat] at hmem
  constructor
  · intro h
    simp only [isNumeralBlank, isAsciiBlank, isWideBlank, Bool.or_eq_true, Bool.and_eq_true,
      decide_eq_true_eq, or_assoc] at h
    obtain rfl | ⟨hlow, hhigh⟩ | rfl | rfl | rfl | ⟨hlow, hhigh⟩ | rfl | rfl | rfl | rfl | rfl := h
    any_goals decide
    all_goals exact hrange (by decide) hlow hhigh
  · have hall : whiteSpace.all isNumeralBlank = true := by decide
    exact List.all_eq_true.1 hall c

/-- No digit is white space. -/
theorem isNumeralBlank_of_isSome {c : Char} (h : (decimal? c).isSome = true) :
    isNumeralBlank c = false := by
  have hall : whiteSpace.all (fun c => (decimal? c).isNone) = true := by decide
  refine Bool.eq_false_iff.2 fun hblank => ?_
  have hnone := List.all_eq_true.1 hall c (isNumeralBlank_iff.1 hblank)
  rw [Option.isNone_iff_eq_none.1 hnone] at h
  cases h

/-- A text is the text without the characters of a class at its ends, between some of them. -/
theorem exists_trimBy (p : Char → Bool) (s : List Char) :
    ∃ before after, s = before ++ trimBy p s ++ after ∧ (∀ c ∈ before, p c = true) ∧
      ∀ c ∈ after, p c = true := by
  refine ⟨s.takeWhile p, (s.dropWhile p).rtakeWhile p, ?_, fun c => List.mem_takeWhile_imp,
    fun c => List.mem_rtakeWhile_imp⟩
  have htrim : trimBy p s = (s.dropWhile p).rdropWhile p := rfl
  rw [htrim, List.append_assoc, List.rdropWhile_append_rtakeWhile, List.takeWhile_append_dropWhile]

/-- What is dropped from a text ends where another character stands. -/
theorem dropWhile_append_of_head? {p : Char → Bool} {before s : List Char} {c : Char}
    (hbefore : ∀ d ∈ before, p d = true) (hfirst : s.head? = some c) (hc : p c = false) :
    (before ++ s).dropWhile p = s := by
  obtain ⟨rest, rfl⟩ := List.head?_eq_some_iff.1 hfirst
  rw [List.dropWhile_append_of_pos hbefore, List.dropWhile_cons_of_neg (by simp [hc])]

/-- A text with none of them at its ends is left. -/
theorem trimBy_append {p : Char → Bool} {before s after : List Char} {c d : Char}
    (hbefore : ∀ d ∈ before, p d = true) (hafter : ∀ d ∈ after, p d = true)
    (hfirst : s.head? = some c) (hc : p c = false) (hlast : s.getLast? = some d)
    (hd : p d = false) : trimBy p (before ++ s ++ after) = s := by
  have hrest : (s ++ after).head? = some c := by rw [List.head?_append, hfirst, Option.some_or]
  have hreverse : s.reverse.head? = some d := by rw [List.head?_reverse, hlast]
  rw [trimBy, List.append_assoc, dropWhile_append_of_head? hbefore hrest hc, List.reverse_append,
    dropWhile_append_of_head? (by simpa using hafter) hreverse hd, List.reverse_reverse]

/-! ## Numerals -/

/-- Digits that a numeral may have, and their number to the base ten. -/
def HaveNumber (ds : List Char) (n : Nat) : Prop :=
  ∃ vs : List Nat, ds.map decimal? = vs.map some ∧ ds.length ≤ maxNumeralDigits ∧
    n = Nat.ofDigits 10 vs.reverse

/-- How a numeral is laid out: white space, a sign or none, digits with single underscores between
them, and white space. -/
inductive Layout (sign ds : List Char) : List Char → Prop
  | mk {before run after : List Char} (blankBefore : ∀ c ∈ before, c ∈ whiteSpace)
      (digits : Underscored ds run) (blankAfter : ∀ c ∈ after, c ∈ whiteSpace) :
    Layout sign ds (before ++ (sign ++ run) ++ after)

/-- The numerals of an integer. -/
inductive IsNumeral (s : List Char) : Int → Prop
  | unsigned {ds : List Char} {n : Nat} : Layout [] ds s → HaveNumber ds n → IsNumeral s n
  | plus {ds : List Char} {n : Nat} : Layout ['+'] ds s → HaveNumber ds n → IsNumeral s n
  | minus {ds : List Char} {n : Nat} : Layout ['-'] ds s → HaveNumber ds n → IsNumeral s (-n)

/-- Values of digits write a number to the base ten. -/
theorem ofDigitValues_eq (vs : List Nat) : ofDigitValues vs = Nat.ofDigits 10 vs.reverse := by
  rw [Nat.ofDigits_eq_foldr, List.foldr_reverse, ofDigitValues]
  simp only [Nat.cast_id, Nat.add_comm]

/-- Runs of digits are read as their number. -/
theorem readNat?_eq_some_iff {s : List Char} {n : Nat} :
    readNat? s = some n ↔ ∃ ds, Underscored ds s ∧ HaveNumber ds n := by
  simp only [readNat?, Option.bind_eq_bind, Option.bind_eq_some_iff, digitRun?_eq_some_iff,
    HaveNumber]
  constructor
  · rintro ⟨vs, ⟨ds, hds, hmap⟩, hread⟩
    have hlength : ds.length = vs.length := by simpa using congrArg List.length hmap
    split at hread
    · cases hread
    next hmax =>
      obtain rfl := Option.some.inj hread
      exact ⟨ds, hds, vs, hmap, by omega, ofDigitValues_eq vs⟩
  · rintro ⟨ds, hds, vs, hmap, hmax, rfl⟩
    have hlength : ds.length = vs.length := by simpa using congrArg List.length hmap
    exact ⟨vs, ⟨ds, hds, hmap⟩, by rw [if_neg (by omega), ofDigitValues_eq]⟩

/-- The digits of a run are digits. -/
theorem HaveNumber.isSome {ds : List Char} {n : Nat} (h : HaveNumber ds n) {c : Char}
    (hc : c ∈ ds) : (decimal? c).isSome = true := by
  obtain ⟨vs, hmap, -⟩ := h
  exact isSome_of_map_eq hmap hc

/-- White space is trimmed from a numeral. -/
theorem Layout.exists_trimBy {sign ds s : List Char} {n : Nat} (h : Layout sign ds s)
    (hn : HaveNumber ds n) (hsign : ∀ c ∈ sign, isNumeralBlank c = false) :
    ∃ run, trimBy isNumeralBlank s = sign ++ run ∧ Underscored ds run := by
  obtain ⟨hbefore, hrun, hafter⟩ := h
  refine ⟨_, ?_, hrun⟩
  obtain ⟨c, ds', run', rfl, rfl⟩ := hrun.exists_cons
  obtain ⟨d, hd⟩ : ∃ d, (c :: run').getLast? = some d :=
    ⟨_, List.getLast?_eq_some_getLast (List.cons_ne_nil _ _)⟩
  have hdigit {e : Char} (he : e ∈ c :: ds') : isNumeralBlank e = false :=
    isNumeralBlank_of_isSome (hn.isSome he)
  obtain ⟨e, he⟩ : ∃ e, (sign ++ c :: run').head? = some e := by
    cases sign <;> exact ⟨_, rfl⟩
  have hlast : (sign ++ c :: run').getLast? = some d := by
    rw [List.getLast?_append, hd, Option.some_or]
  have hfirst : isNumeralBlank e = false := by
    cases sign with
    | nil =>
      obtain rfl := Option.some.inj he
      exact hdigit (.head _)
    | cons =>
      obtain rfl := Option.some.inj he
      exact hsign _ (.head _)
  rw [hrun.getLast?_eq] at hd
  exact trimBy_append (fun _ hb => isNumeralBlank_iff.2 (hbefore _ hb))
    (fun _ ha => isNumeralBlank_iff.2 (hafter _ ha)) he hfirst hlast
    (hdigit (List.mem_of_getLast? hd))

/-- Reading accepts exactly the numerals, and gives their number. -/
theorem readInt?_eq_some_iff {s : List Char} {n : Int} : readInt? s = some n ↔ IsNumeral s n := by
  constructor
  · intro h
    obtain ⟨before, after, hs, hbefore, hafter⟩ := Text.exists_trimBy isNumeralBlank s
    have hlayout {sign run ds : List Char} (htrim : trimBy isNumeralBlank s = sign ++ run)
        (hrun : Underscored ds run) : Layout sign ds s := by
      rw [hs, htrim]
      exact .mk (fun c hc => isNumeralBlank_iff.1 (hbefore c hc)) hrun
        fun c hc => isNumeralBlank_iff.1 (hafter c hc)
    unfold readInt? at h
    split at h <;> obtain ⟨k, hk, rfl⟩ := Option.map_eq_some_iff.1 h <;>
      obtain ⟨ds, hds, hnumber⟩ := readNat?_eq_some_iff.1 hk
    next htrim => exact .plus (hlayout htrim hds) hnumber
    next htrim => exact .minus (hlayout htrim hds) hnumber
    next => exact .unsigned (hlayout rfl hds) hnumber
  · intro h
    unfold readInt?
    cases h with
    | @unsigned ds k layout number =>
      obtain ⟨run, htrim, hrun⟩ := layout.exists_trimBy number nofun
      have hread := readNat?_eq_some_iff.2 ⟨ds, hrun, number⟩
      -- the run begins with a digit, so that no sign is read off it
      obtain ⟨c, ds', run', rfl, rfl⟩ := hrun.exists_cons
      have hsign {d : Char} (hd : (decimal? d).isSome = false) : c ≠ d := by
        rintro rfl
        cases hd.symm.trans (number.isSome (.head _))
      rw [htrim]
      split
      next heq => exact absurd (List.cons.inj heq).1 (hsign (by decide))
      next heq => exact absurd (List.cons.inj heq).1 (hsign (by decide))
      next => exact Option.map_eq_some_iff.2 ⟨k, hread, rfl⟩
    | @plus ds k layout number =>
      obtain ⟨run, htrim, hrun⟩ := layout.exists_trimBy number (List.forall_mem_singleton.2 rfl)
      rw [htrim]
      exact Option.map_eq_some_iff.2 ⟨k, readNat?_eq_some_iff.2 ⟨ds, hrun, number⟩, rfl⟩
    | @minus ds k layout number =>
      obtain ⟨run, htrim, hrun⟩ := layout.exists_trimBy number (List.forall_mem_singleton.2 rfl)
      rw [htrim]
      exact Option.map_eq_some_iff.2 ⟨k, readNat?_eq_some_iff.2 ⟨ds, hrun, number⟩, rfl⟩

/-- The number of a numeral without a minus sign is not negative. -/
theorem IsNumeral.nonneg {s : List Char} {n : Int} (h : IsNumeral s n) (hminus : '-' ∉ s) :
    0 ≤ n := by
  cases h with
  | unsigned | plus => exact Int.natCast_nonneg _
  | minus layout =>
    obtain ⟨-, -, -⟩ := layout
    exact absurd (by simp) hminus

/-! ## Spellings -/

/-- A way to spell a natural number by its digits to the base ten: zeros may lead and a plus sign
may stand before them, as long as there are not too many. -/
structure IsSpelling (n : Nat) (s : List Char) : Prop where
  layout : ∃ zeros sign, (sign = [] ∨ sign = ['+']) ∧
    zeros + (Nat.toDigits 10 n).length ≤ maxNumeralDigits ∧
    Layout sign (List.replicate zeros '0' ++ Nat.toDigits 10 n) s

/-- An ASCII digit has its value. -/
theorem decimal?_of_isDigit {c : Char} (h : c.isDigit = true) :
    decimal? c = some (c.toNat - '0'.toNat) :=
  if_pos h

/-- Digits of a number are digits, whatever zeros lead. -/
theorem isDigit_of_mem {zeros n : Nat} {c : Char}
    (hc : c ∈ List.replicate zeros '0' ++ Nat.toDigits 10 n) : c.isDigit = true := by
  obtain hc | hc := List.mem_append.1 hc
  · rw [List.eq_of_mem_replicate hc]
    rfl
  · exact Nat.isDigit_of_mem_toDigits (by norm_num) le_rfl hc

/-- Digits that are not too many have the number whose digits they are, whatever zeros lead. -/
theorem haveNumber_toDigits {zeros n : Nat}
    (h : zeros + (Nat.toDigits 10 n).length ≤ maxNumeralDigits) :
    HaveNumber (List.replicate zeros '0' ++ Nat.toDigits 10 n) n := by
  refine ⟨(List.replicate zeros '0' ++ Nat.toDigits 10 n).map (·.toNat - '0'.toNat), ?_, ?_, ?_⟩
  · rw [List.map_map]
    exact List.map_congr_left fun c hc => decimal?_of_isDigit (isDigit_of_mem hc)
  · rwa [List.length_append, List.length_replicate]
  · have hchars (ds : List Char) :
        ofDigitValues (ds.map (·.toNat - '0'.toNat)) = Nat.ofDigitChars 10 ds 0 := List.foldl_map
    rw [← ofDigitValues_eq, hchars, Nat.ofDigitChars_append, Nat.ofDigitChars_replicate_zero,
      Nat.mul_zero, Nat.ofDigitChars_ten_toDigits]

/-- A spelling of a number is a numeral of it. -/
theorem IsSpelling.isNumeral {n : Nat} {s : List Char} (h : IsSpelling n s) :
    IsNumeral s (n : Int) := by
  obtain ⟨zeros, _, rfl | rfl, hmax, layout⟩ := h.layout
  · exact .unsigned layout (haveNumber_toDigits hmax)
  · exact .plus layout (haveNumber_toDigits hmax)

/-- No dash stands in a spelling. -/
theorem IsSpelling.dash_not_mem {n : Nat} {s : List Char} (h : IsSpelling n s) : '-' ∉ s := by
  obtain ⟨zeros, sign, hsign, -, hbefore, hrun, hafter⟩ := h.layout
  have hblank : '-' ∉ whiteSpace := by decide
  have hplus : '-' ∉ sign := by
    obtain rfl | rfl := hsign <;> decide
  simp only [List.mem_append, not_or]
  refine ⟨⟨fun hmem => hblank (hbefore _ hmem), hplus, fun hmem => ?_⟩,
    fun hmem => hblank (hafter _ hmem)⟩
  obtain hdigit | hunderscore := hrun.mem_or_eq hmem
  · exact absurd (isDigit_of_mem hdigit) (by decide)
  · exact absurd hunderscore (by decide)

/-- Characters are a text of themselves without underscores. -/
theorem Underscored.refl (c : Char) (ds : List Char) : Underscored (c :: ds) (c :: ds) := by
  induction ds generalizing c with
  | nil => exact .last c
  | cons d ds ih => exact .next c (ih d)

/-- The digits of a number are a spelling of it if they are not too many. -/
theorem isSpelling_toDigits {n : Nat} (h : (Nat.toDigits 10 n).length ≤ maxNumeralDigits) :
    IsSpelling n (Nat.toDigits 10 n) := by
  refine ⟨0, [], .inl rfl, by rwa [Nat.zero_add], ?_⟩
  obtain ⟨c, ds, hds⟩ := List.exists_cons_of_ne_nil (Nat.toDigits_ne_nil (b := 10) (n := n))
  have hrun : Underscored (List.replicate 0 '0' ++ Nat.toDigits 10 n) (Nat.toDigits 10 n) := by
    rw [hds]
    exact .refl c ds
  have hlayout : Layout [] (List.replicate 0 '0' ++ Nat.toDigits 10 n)
      ([] ++ ([] ++ Nat.toDigits 10 n) ++ []) := .mk nofun hrun nofun
  rwa [List.nil_append, List.nil_append, List.append_nil] at hlayout

end Voicemail.Text
