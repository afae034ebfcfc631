import Voicemail.Json.Reader
import Voicemail.Json.Writer
import Voicemail.Proofs.Number.Shortest

/-!
# Numbers read back

What the writer of a number makes and what the reader of numbers takes meet in `Numeral`: digits
before the point, digits after it, and an exponent. The reader takes every well-formed numeral for
the double of its value (`Numeral.readNumber_text`), and the writer writes a well-formed numeral
whose value is the shortest decimal of the double (`exists_numeral`). So every finite double reads
back (`readNumber_writeMagnitude`), and so does every integer of a length that is read
(`readNumber_toDigits`).
-/

namespace Voicemail.Json

/-! ## Reading digits -/

/-- A text does not start with a digit. -/
def NoDigit (s : List Char) : Prop := ∀ c ∈ s.head?, c.isDigit = false

/-- What follows a value in a text: nothing, a separator, what closes a container, or the end of a
line. -/
def Follows (s : List Char) : Prop := ∀ c ∈ s.head?, c = ',' ∨ c = ']' ∨ c = '\x7d' ∨ c = '\n'

variable {ds whole rest : List Char}

/-- What may follow a value does not go on with digits. -/
theorem Follows.noDigit (h : Follows rest) : NoDigit rest := by
  intro c hc
  obtain rfl | rfl | rfl | rfl := h c hc <;> rfl

/-- All digits up to something else are taken together. -/
theorem spanDigits_append (hds : ds.all Char.isDigit) (hrest : NoDigit rest) :
    spanDigits (ds ++ rest) = (ds, rest) := by
  rw [List.all_eq_true] at hds
  rw [spanDigits, List.span_eq_takeWhile_dropWhile, List.takeWhile_append_of_pos hds,
    List.dropWhile_append_of_pos hds]
  cases rest with
  | nil => rw [List.takeWhile_nil, List.dropWhile_nil, List.append_nil]
  | cons c cs =>
    have hc := hrest c rfl
    rw [List.takeWhile_cons_of_neg (by simp [hc]), List.dropWhile_cons_of_neg (by simp [hc]),
      List.append_nil]

/-- The digits before a point: one zero, or digits of which the first is not zero. -/
structure IsWhole (ds : List Char) : Prop where
  digits : ds.all Char.isDigit
  start : ds = ['0'] ∨ ∃ c, ds.head? = some c ∧ c ≠ '0'

/-- There is a digit before the point. -/
theorem IsWhole.isDigit (h : IsWhole ds) : ∃ c cs, ds = c :: cs ∧ c.isDigit = true := by
  obtain rfl | ⟨c, hc, -⟩ := h.start
  · exact ⟨'0', [], rfl, rfl⟩
  · cases ds with
    | nil => cases hc
    | cons d cs => exact ⟨d, cs, rfl, List.all_eq_true.1 h.digits d (.head _)⟩

/-- The digits of a positive number do not start with a zero. -/
theorem head?_toDigits {n : Nat} (hn : 0 < n) :
    ∃ c, (Nat.toDigits 10 n).head? = some c ∧ c ≠ '0' := by
  induction n using Nat.strong_induction_on with
  | _ n ih =>
    obtain hlt | hge := lt_or_ge n 10
    · rw [Nat.toDigits_of_lt_base hlt]
      exact ⟨_, rfl, fun h => hn.ne' (Nat.digitChar_eq_zero.1 h)⟩
    · rw [Nat.toDigits_of_base_le (by norm_num) hge]
      obtain ⟨c, hc, hne⟩ := ih (n / 10) (by omega) (by omega)
      exact ⟨c, by rw [List.head?_append, hc]; rfl, hne⟩

/-- The decimal form of a natural number has only digits. -/
theorem all_isDigit_toDigits (n : Nat) : (Nat.toDigits 10 n).all Char.isDigit :=
  List.all_eq_true.2 fun _ hc => Nat.isDigit_of_mem_toDigits (by norm_num) le_rfl hc

/-- The digits of a number stand before a point. -/
theorem isWhole_toDigits (n : Nat) : IsWhole (Nat.toDigits 10 n) := by
  refine ⟨all_isDigit_toDigits n, ?_⟩
  obtain rfl | hn := n.eq_zero_or_pos
  · exact .inl rfl
  · exact .inr (head?_toDigits hn)

/-! ## Reading numerals -/

/-- A number as it is written. -/
structure Numeral where
  /-- The digits before the point. -/
  whole : List Char
  /-- The digits after the point; without any there is no point. -/
  fraction : List Char
  /-- Whether the exponent is negative, and its digits. -/
  exponent : Option (Bool × List Char)

namespace Numeral

/-- A point and the digits after it. -/
def pointText (fraction : List Char) : List Char :=
  if fraction.isEmpty then [] else '.' :: fraction

/-- An exponent with its sign. -/
def exponentText : Option (Bool × List Char) → List Char
  | none => []
  | some (negative, ds) => 'e' :: (if negative then '-' else '+') :: ds

/-- The characters of a numeral. -/
def text (n : Numeral) : List Char := n.whole ++ (pointText n.fraction ++ exponentText n.exponent)

/-- All digits of a numeral as one number. -/
def digits (n : Numeral) : Nat := Nat.ofDigitChars 10 (n.whole ++ n.fraction) 0

/-- The number of an exponent. -/
def exponentValue : Option (Bool × List Char) → Int
  | none => 0
  | some (negative, ds) =>
    if negative then -Int.ofNat (Nat.ofDigitChars 10 ds 0) else Int.ofNat (Nat.ofDigitChars 10 ds 0)

/-- The power of ten that the digits are multiplied by. -/
def scale (n : Numeral) : Int := exponentValue n.exponent - Int.ofNat n.fraction.length

/-- A numeral that JSON allows. -/
structure IsWellFormed (n : Numeral) : Prop where
  whole : IsWhole n.whole
  fraction : n.fraction.all Char.isDigit
  exponent : ∀ e ∈ n.exponent, e.2 ≠ [] ∧ e.2.all Char.isDigit

end Numeral

/-- Without a point there is no fraction. -/
theorem readFraction_none (h : ∀ c ∈ rest.head?, c ≠ '.') : readFraction rest = (none, rest) := by
  cases rest with
  | nil => rfl
  | cons c cs =>
    have hc := h c rfl
    simp only [readFraction]
    split
    next heq => exact absurd (List.cons.inj heq).1 hc
    next => rfl

/-- A point with its digits is read as the fraction, and no point as none. -/
theorem readFraction_pointText (hds : ds.all Char.isDigit) (hrest : NoDigit rest)
    (hpoint : ∀ c ∈ rest.head?, c ≠ '.') :
    readFraction (Numeral.pointText ds ++ rest) = (if ds.isEmpty then none else some ds, rest) := by
  cases ds with
  | nil => exact readFraction_none hpoint
  | cons d cs =>
    have hspan := spanDigits_append hds hrest
    rw [List.cons_append] at hspan
    simp only [Numeral.pointText, List.isEmpty_cons, Bool.false_eq_true, if_false,
      List.cons_append, readFraction, hspan]

/-- Without an `e` there is no exponent. -/
theorem readExponent_none (h : ∀ c ∈ rest.head?, c ≠ 'e' ∧ c ≠ 'E') :
    readExponent rest = (none, rest) := by
  cases rest with
  | nil => rfl
  | cons c cs =>
    obtain ⟨he, hE⟩ := h c rfl
    simp only [readExponent, he, hE, decide_false, Bool.or_self, Bool.false_eq_true, if_false]

/-- An exponent is read as its value. -/
theorem readExponent_exponentText {e : Option (Bool × List Char)}
    (he : ∀ x ∈ e, x.2 ≠ [] ∧ x.2.all Char.isDigit) (hrest : Follows rest) :
    readExponent (Numeral.exponentText e ++ rest) =
      (e.map fun x => Numeral.exponentValue (some x), rest) := by
  cases e with
  | none =>
    refine readExponent_none fun c hc => ?_
    obtain rfl | rfl | rfl | rfl := hrest c hc <;> decide
  | some x =>
    obtain ⟨negative, ds⟩ := x
    obtain ⟨hne, hds⟩ := he _ rfl
    have hspan := spanDigits_append hds hrest.noDigit
    cases negative <;>
      simp only [Numeral.exponentText, List.cons_append, readExponent, decide_true, Bool.true_or,
        if_true, Bool.false_eq_true, if_false, hspan] <;>
      rfl

namespace Numeral

/-- What follows a fraction starts neither with a digit nor with a point. -/
theorem noDigit_exponentText (e : Option (Bool × List Char)) (hrest : Follows rest) :
    NoDigit (exponentText e ++ rest) ∧ ∀ c ∈ (exponentText e ++ rest).head?, c ≠ '.' := by
  cases e with
  | none =>
    refine ⟨hrest.noDigit, fun c hc => ?_⟩
    obtain rfl | rfl | rfl | rfl := hrest c hc <;> decide
  | some x => exact ⟨by rintro c ⟨⟩; rfl, by rintro c ⟨⟩; decide⟩

/-- The digits before the point end there, whether a fraction follows or not. -/
theorem noDigit_pointText (fraction : List Char) (hrest : NoDigit rest) :
    NoDigit (pointText fraction ++ rest) := by
  cases fraction with
  | nil => exact hrest
  | cons => rintro c ⟨⟩; rfl

end Numeral

variable {limited : Bool}

/-- The number of some digits, with the fraction and the exponent that follow them, before the rest
of a text. -/
def numberOf (limited : Bool) (negative : Bool) (whole rest : List Char) :
    Option (List Char) → Option Int → Option (Json × List Char)
  | none, none =>
    if limited && Text.maxNumeralDigits < whole.length then none
    else
      let n := Int.ofNat (Nat.ofDigitChars 10 whole 0)
      some (.int (if negative then -n else n), rest)
  | fraction?, exponent? =>
    let fraction := fraction?.getD []
    some (.float (.ofDecimal negative (Nat.ofDigitChars 10 (whole ++ fraction) 0)
      (exponent?.getD 0 - Int.ofNat fraction.length)), rest)

/-- A number is read part by part. -/
theorem readNumber_whole {rest₁ rest₂ : List Char} {fraction? : Option (List Char)}
    {exponent? : Option Int} (hw : IsWhole whole) (hrest : NoDigit rest)
    (hfraction : readFraction rest = (fraction?, rest₁))
    (hexponent : readExponent rest₁ = (exponent?, rest₂)) (negative : Bool) :
    readNumber limited negative (whole ++ rest) =
      numberOf limited negative whole rest₂ fraction? exponent? := by
  have hspan := spanDigits_append hw.digits hrest
  obtain rfl | ⟨c, hc, hne⟩ := hw.start
  · rw [List.singleton_append, readNumber.eq_1]
    simp only [hfraction, hexponent]
    cases fraction? <;> cases exponent? <;> rfl
  · obtain ⟨cs, rfl⟩ := List.head?_eq_some_iff.1 hc
    have hnot (r) : c :: cs ++ rest = '0' :: r → False := fun h => hne (List.cons.inj h).1
    rw [readNumber.eq_2 _ _ _ hnot, hspan]
    simp only [hfraction, hexponent]
    cases fraction? <;> cases exponent? <;> rfl

namespace Numeral

/-- A numeral is read as the number of its digits. -/
theorem readNumber_text {n : Numeral} (h : n.IsWellFormed) (hrest : Follows rest)
    (limited negative : Bool) :
    readNumber limited negative (n.text ++ rest) =
      numberOf limited negative n.whole rest (if n.fraction.isEmpty then none else some n.fraction)
        (n.exponent.map fun e => exponentValue (some e)) := by
  have hmark := noDigit_exponentText n.exponent hrest
  rw [text, List.append_assoc, List.append_assoc]
  exact readNumber_whole h.whole (noDigit_pointText n.fraction hmark.1)
    (readFraction_pointText h.fraction hmark.1 hmark.2)
    (readExponent_exponentText h.exponent hrest) negative

/-- A numeral with a point or an exponent is read as the double of its value. -/
theorem readNumber_float {n : Numeral} (h : n.IsWellFormed) (hrest : Follows rest)
    (hfloat : n.fraction ≠ [] ∨ n.exponent.isSome) (limited negative : Bool) :
    readNumber limited negative (n.text ++ rest) =
      some (.float (.ofDecimal negative n.digits n.scale), rest) := by
  rw [readNumber_text h hrest]
  obtain ⟨whole, fraction, exponent⟩ := n
  cases fraction with
  | nil =>
    cases exponent with
    | none => simp at hfloat
    | some e => rfl
  | cons => cases exponent <;> rfl

/-! ## Writing numerals -/

/-- The value of a numeral. -/
def value (n : Numeral) : ℚ := n.digits * 10 ^ n.scale

/-- Digits with a point after the first `p` of them. -/
def positional (ds : List Char) : Int → Numeral
  | .ofNat 0 => ⟨['0'], ds, none⟩
  | .negSucc k => ⟨['0'], List.replicate (k + 1) '0' ++ ds, none⟩
  | .ofNat (k + 1) =>
    ⟨ds.take (k + 1) ++ List.replicate (k + 1 - (ds.take (k + 1)).length) '0',
      if (ds.drop (k + 1)).isEmpty then ['0'] else ds.drop (k + 1), none⟩

/-- Digits with a point after the first, and an exponent. -/
def scientific (width : Nat) (ds : List Char) (e : Int) : Numeral :=
  ⟨ds.take 1, ds.drop 1,
    some (e < 0, List.replicate (width - (Nat.toDigits 10 e.natAbs).length) '0' ++
      Nat.toDigits 10 e.natAbs)⟩

/-- A fraction with digits is written after a point. -/
theorem pointText_of_ne_nil (hne : ds ≠ []) : pointText ds = '.' :: ds := by
  rw [pointText, if_neg (by simpa using hne)]

/-- A number in positional form always has digits after the point. -/
theorem fraction_positional (hne : ds ≠ []) (p : Int) : (positional ds p).fraction ≠ [] := by
  match p with
  | .ofNat 0 => exact hne
  | .negSucc k => simp [positional]
  | .ofNat (k + 1) =>
    rw [positional]
    split
    next => exact List.cons_ne_nil _ _
    next h => simpa using h

/-- The positional form is the text of its numeral. -/
theorem text_positional (hne : ds ≠ []) (p : Int) :
    (positional ds p).text = Binary64.positional ds p := by
  rw [text, pointText_of_ne_nil (fraction_positional hne p)]
  match p with
  | .ofNat 0 => simp [positional, exponentText, Binary64.positional]
  | .negSucc k => simp [positional, exponentText, Binary64.positional]
  | .ofNat (k + 1) => simp [positional, exponentText, Binary64.positional]

/-- Leading digits, the first of which is not zero, are a whole number, also with zeros added. -/
theorem isWhole_take (hds : ds.all Char.isDigit) {c : Char} (hc : ds.head? = some c) (hc0 : c ≠ '0')
    (k l : Nat) : IsWhole (ds.take (k + 1) ++ List.replicate l '0') := by
  obtain ⟨cs, rfl⟩ := List.head?_eq_some_iff.1 hc
  refine ⟨?_, .inr ⟨c, rfl, hc0⟩⟩
  rw [List.all_append, Bool.and_eq_true]
  refine ⟨List.all_eq_true.2 fun x hx => List.all_eq_true.1 hds x (List.mem_of_mem_take hx), ?_⟩
  exact List.all_eq_true.2 fun x hx => by rw [List.eq_of_mem_replicate hx]; rfl

/-- The numeral of the positional form is one that the reader takes. -/
theorem isWellFormed_positional (hds : ds.all Char.isDigit) {c : Char} (hc : ds.head? = some c)
    (hc0 : c ≠ '0') (p : Int) : (positional ds p).IsWellFormed := by
  have hzero : IsWhole ['0'] := ⟨rfl, .inl rfl⟩
  match p with
  | .ofNat 0 => exact ⟨hzero, hds, fun _ => nofun⟩
  | .negSucc k =>
    refine ⟨hzero, ?_, fun _ => nofun⟩
    rw [positional, List.all_append, hds, Bool.and_true]
    exact List.all_eq_true.2 fun x hx => by rw [List.eq_of_mem_replicate hx]; rfl
  | .ofNat (k + 1) =>
    refine ⟨isWhole_take hds hc hc0 k _, ?_, fun _ => nofun⟩
    rw [positional]
    split
    next => rfl
    next => exact List.all_eq_true.2 fun x hx => List.all_eq_true.1 hds x (List.mem_of_mem_drop hx)

/-- Zeros up to the point and one behind it are so many powers of ten. -/
theorem ofDigitChars_padded (ds : List Char) (j : Nat) :
    Nat.ofDigitChars 10 (ds ++ List.replicate j '0' ++ ['0']) 0 =
      Nat.ofDigitChars 10 ds 0 * 10 ^ j * 10 := by
  rw [Nat.ofDigitChars_append, Nat.ofDigitChars_append, Nat.ofDigitChars_replicate_zero,
    Nat.ofDigitChars_cons, Nat.ofDigitChars_nil]
  show 10 * _ + 0 = _
  ring

/-- The value of digits with a point among them or beside them. -/
theorem value_positional (p : Int) :
    (positional ds p).value = Nat.ofDigitChars 10 ds 0 * 10 ^ (p - Int.ofNat ds.length) := by
  match p with
  | .ofNat 0 =>
    simp [value, digits, scale, positional, exponentValue, Nat.ofDigitChars_cons]
  | .negSucc k =>
    have hdigits : Nat.ofDigitChars 10 (['0'] ++ (List.replicate (k + 1) '0' ++ ds)) 0 =
        Nat.ofDigitChars 10 ds 0 := by
      rw [Nat.ofDigitChars_append, Nat.ofDigitChars_append, Nat.ofDigitChars_replicate_zero]
      rfl
    rw [value, digits, scale, positional, hdigits]
    congr 2
    simp only [exponentValue, List.length_append, List.length_replicate, Int.ofNat_eq_natCast]
    omega
  | .ofNat (k + 1) =>
    obtain hle | hlt := le_or_gt ds.length (k + 1)
    · obtain ⟨j, hj⟩ := Nat.exists_eq_add_of_le hle
      have htake : ds.take (k + 1) = ds := List.take_of_length_le hle
      have hdrop : (ds.drop (k + 1)).isEmpty = true := by simpa using hle
      have hpower : Int.ofNat (k + 1) - Int.ofNat ds.length = (j : Int) := by
        simp only [Int.ofNat_eq_natCast]
        omega
      rw [value, digits, scale, positional, htake, if_pos hdrop, hpower, hj,
        Nat.add_sub_cancel_left, ofDigitChars_padded, zpow_natCast]
      simp [exponentValue]
    · have hlength : (ds.take (k + 1)).length = k + 1 := List.length_take_of_le hlt.le
      have hdrop : ¬(ds.drop (k + 1)).isEmpty = true := by simpa using hlt
      rw [value, digits, scale, positional, hlength, Nat.sub_self, List.replicate_zero,
        List.append_nil, if_neg hdrop, List.take_append_drop]
      congr 2
      simp only [exponentValue, List.length_drop, Int.ofNat_eq_natCast]
      omega

/-- The scientific form is the text of its numeral. -/
theorem text_scientific (hne : ds ≠ []) (width : Nat) (e : Int) :
    (scientific width ds e).text = Binary64.scientific width ds e := by
  match ds with
  | [d] => simp [text, scientific, pointText, exponentText, Binary64.scientific]
  | d :: c :: cs => simp [text, scientific, pointText, exponentText, Binary64.scientific]

/-- The numeral of the scientific form is one that the reader takes. -/
theorem isWellFormed_scientific (hds : ds.all Char.isDigit) {c : Char} (hc : ds.head? = some c)
    (hc0 : c ≠ '0') (width : Nat) (e : Int) : (scientific width ds e).IsWellFormed := by
  have hwhole := isWhole_take hds hc hc0 0 0
  rw [List.replicate_zero, List.append_nil] at hwhole
  refine ⟨hwhole, ?_, ?_⟩
  · exact List.all_eq_true.2 fun x hx => List.all_eq_true.1 hds x (List.mem_of_mem_drop hx)
  · rintro _ ⟨⟩
    refine ⟨by simp [Nat.toDigits_ne_nil], ?_⟩
    rw [List.all_append, all_isDigit_toDigits, Bool.and_true]
    exact List.all_eq_true.2 fun x hx => by rw [List.eq_of_mem_replicate hx]; rfl

/-- The value of digits with an exponent. -/
theorem value_scientific (hne : ds ≠ []) (width : Nat) (e : Int) :
    (scientific width ds e).value =
      Nat.ofDigitChars 10 ds 0 * 10 ^ (e + 1 - Int.ofNat ds.length) := by
  obtain ⟨d, cs, rfl⟩ := List.exists_cons_of_ne_nil hne
  have hexponent : exponentValue (scientific width (d :: cs) e).exponent = e := by
    simp only [scientific, exponentValue, Nat.ofDigitChars_append, Nat.ofDigitChars_replicate_zero,
      mul_zero, Nat.ofDigitChars_ten_toDigits, decide_eq_true_eq, Int.ofNat_eq_natCast]
    split <;> omega
  rw [value, digits, scale, hexponent]
  simp only [scientific, List.drop_one, List.tail_cons, List.length_cons,
    Int.ofNat_eq_natCast]
  congr 2
  push_cast
  ring

end Numeral

/-! ## Doubles -/

open Binary64

variable {m : Nat} {e : Int}

/-- A positive double is written as a numeral that has the value of its shortest decimal. -/
theorem exists_numeral_of_pos (h : IsNormal m e) (hm : 0 < m) :
    ∃ n : Numeral, n.IsWellFormed ∧ (n.fraction ≠ [] ∨ n.exponent.isSome) ∧
      n.text = writeMagnitude .json m e ∧
      n.value = (shortest m e).1 * 10 ^ (shortest m e).2 := by
  have hpos : 0 < (shortest m e).1 := by
    obtain ⟨hsmall, -⟩ := h.range hm (shortest_mem h hm)
    refine Nat.pos_of_ne_zero fun hzero => ?_
    rw [hzero, Nat.cast_zero, zero_mul] at hsmall
    exact absurd hsmall (by positivity : (0 : ℚ) ≤ 10 ^ (-401 : Int)).not_gt
  rw [writeMagnitude, if_neg hm.ne']
  generalize shortest m e = s at hpos ⊢
  obtain ⟨d, k⟩ := s
  have hds := all_isDigit_toDigits d
  have hne : Nat.toDigits 10 d ≠ [] := Nat.toDigits_ne_nil
  obtain ⟨c, hc, hc0⟩ := head?_toDigits hpos
  set p : Int := k + Int.ofNat (Nat.toDigits 10 d).length - 1 with hp
  have hpower : p + 1 - Int.ofNat (Nat.toDigits 10 d).length = k := by omega
  dsimp only
  split
  next =>
    refine ⟨.positional (Nat.toDigits 10 d) (p + 1), Numeral.isWellFormed_positional hds hc hc0 _,
      .inl (Numeral.fraction_positional hne _), Numeral.text_positional hne _, ?_⟩
    rw [Numeral.value_positional, hpower, Nat.ofDigitChars_ten_toDigits]
  next =>
    refine ⟨.scientific _ (Nat.toDigits 10 d) p, Numeral.isWellFormed_scientific hds hc hc0 _ _,
      .inr rfl, Numeral.text_scientific hne _ _, ?_⟩
    rw [Numeral.value_scientific hne, hpower, Nat.ofDigitChars_ten_toDigits]

/-- A finite double is written as a numeral that is read as the double. -/
theorem exists_numeral (h : IsNormal m e) :
    ∃ n : Numeral, n.IsWellFormed ∧ (n.fraction ≠ [] ∨ n.exponent.isSome) ∧
      n.text = writeMagnitude .json m e ∧
      ∀ negative, ofDecimal negative n.digits n.scale = .finite negative m e := by
  obtain rfl | hm := m.eq_zero_or_pos
  · have hleast : e = minExponent := h.full.resolve_left (by norm_num)
    refine ⟨⟨['0'], ['0'], none⟩, ⟨⟨rfl, .inl rfl⟩, rfl, fun _ => nofun⟩, .inl (by simp), rfl,
      fun negative => ?_⟩
    rw [hleast]
    rfl
  · obtain ⟨n, hn, hfloat, htext, hvalue⟩ := exists_numeral_of_pos h hm
    exact ⟨n, hn, hfloat, htext, fun negative => ofDecimal_shortest negative h hm hvalue⟩

/-- What is written for the magnitude of a finite double starts with a digit and is read as the
double. -/
theorem readNumber_writeMagnitude (h : IsNormal m e) (hrest : Follows rest)
    (limited negative : Bool) :
    (∃ c cs, writeMagnitude .json m e = c :: cs ∧ c.isDigit = true) ∧
      readNumber limited negative (writeMagnitude .json m e ++ rest) =
        some (.float (.finite negative m e), rest) := by
  obtain ⟨n, hn, hfloat, htext, hread⟩ := exists_numeral h
  rw [← htext]
  constructor
  · obtain ⟨c, cs, hcs, hc⟩ := hn.whole.isDigit
    exact ⟨c, _, by rw [Numeral.text, hcs, List.cons_append], hc⟩
  · rw [Numeral.readNumber_float hn hrest hfloat, hread]

/-! ## Integers -/

/-- What is written for a number of no more digits than are read is read as the number. -/
theorem readNumber_toDigits {k : Nat} (hk : limited = true → k < 10 ^ Text.maxNumeralDigits)
    (hrest : Follows rest) (negative : Bool) :
    readNumber limited negative (Nat.toDigits 10 k ++ rest) =
      some (.int (if negative then -Int.ofNat k else Int.ofNat k), rest) := by
  have hlength : ¬(limited && Text.maxNumeralDigits < (Nat.toDigits 10 k).length) := by
    intro hlong
    obtain ⟨hlimited, hlong⟩ := Bool.and_eq_true_iff.1 hlong
    exact absurd ((Nat.length_toDigits_le_iff (by norm_num) (by decide)).2 (hk hlimited))
      (of_decide_eq_true hlong).not_ge
  have hn : Numeral.IsWellFormed ⟨Nat.toDigits 10 k, [], none⟩ :=
    ⟨isWhole_toDigits k, rfl, fun _ => nofun⟩
  have hread := Numeral.readNumber_text hn hrest limited negative
  have htext : Numeral.text ⟨Nat.toDigits 10 k, [], none⟩ = Nat.toDigits 10 k := by
    simp [Numeral.text, Numeral.pointText, Numeral.exponentText]
  rw [htext] at hread
  rw [hread]
  simp only [List.isEmpty_nil, if_true, Option.map_none, numberOf, if_neg hlength,
    Nat.ofDigitChars_ten_toDigits]

end Voicemail.Json
