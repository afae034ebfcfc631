import Mathlib.Algebra.Order.Field.Power
import Mathlib.Tactic.FieldSimp
import Mathlib.Tactic.Linarith
import Mathlib.Tactic.Positivity
import Mathlib.Tactic.Ring
import Voicemail.Number.Shortest

/-!
# Rounding to doubles

Every double is made by `ofRatio`, which looks for the exponent that leaves 53 bits and rounds what
is left. Over the rationals the exponent is determined by inequalities (`IsExponent.unique`,
`isExponent_exponentFor`), and the result is in normal form (`isDouble_ofRatio`). The numbers that
round to a positive double are those of its `interval` (`ofRatio_of_mem`), also where the double is
a power of two and the numbers below it are rounded on a finer grid.
-/

namespace Voicemail.Binary64

/-- The mantissa and exponent of a finite double are the only ones for its value: the mantissa has
53 bits, or the exponent is the least. -/
structure IsNormal (mantissa : Nat) (exponent : Int) : Prop where
  mantissa_lt : mantissa < 2 ^ 53
  least : minExponent ≤ exponent
  greatest : exponent ≤ maxExponent
  full : 2 ^ 52 ≤ mantissa ∨ exponent = minExponent

/-- A double as a computer holds it. -/
def IsDouble : Binary64 → Prop
  | .finite _ m e => IsNormal m e
  | .nan | .infinite _ => True

/-- A number lies between two others, which count if the range is closed. -/
def Between (closed : Bool) (low x high : ℚ) : Prop :=
  if closed then low ≤ x ∧ x ≤ high else low < x ∧ x < high

/-- What lies between two numbers is not beyond either. -/
theorem Between.le {closed : Bool} {low x high : ℚ} (h : Between closed low x high) :
    low ≤ x ∧ x ≤ high := by
  cases closed with
  | true => exact h
  | false => exact ⟨h.1.le, h.2.le⟩

/-- What lies strictly between lies there whether the ends count or not. -/
theorem Between.of_lt {closed : Bool} {low x high : ℚ} (hlow : low < x) (hhigh : x < high) :
    Between closed low x high := by
  cases closed with
  | true => exact ⟨hlow.le, hhigh.le⟩
  | false => exact ⟨hlow, hhigh⟩

/-- A range that holds one of its ends is closed. -/
theorem Between.closed_of_eq {closed : Bool} {low x high : ℚ} (h : Between closed low x high)
    (hend : x = low ∨ x = high) : closed = true := by
  cases closed with
  | true => rfl
  | false =>
    obtain ⟨hlow, hhigh⟩ := h
    rcases hend with rfl | rfl
    · exact absurd hlow (lt_irrefl _)
    · exact absurd hhigh (lt_irrefl _)

/-- A lower bound may be moved to anything that lies below the number. -/
theorem Between.of_low_lt {closed : Bool} {low low' x high : ℚ} (h : Between closed low x high)
    (hlow : low' < x) : Between closed low' x high := by
  cases closed with
  | true => exact ⟨hlow.le, h.2⟩
  | false => exact ⟨hlow, h.2⟩

/-- Scaling keeps what lies between. -/
theorem between_mul {closed : Bool} {low x high c : ℚ} (hc : 0 < c) :
    Between closed (low * c) (x * c) (high * c) ↔ Between closed low x high := by
  cases closed <;> simp [Between, hc]

/-! ## Rounding a quotient -/

/-- A quotient is its integer part and a fraction, whose side of one half `roundEven` looks at. -/
theorem exists_fraction (num : Nat) {den : Nat} (hd : 0 < den) :
    ∃ r : ℚ, (num / den : ℚ) = (num / den : Nat) + r ∧ 0 ≤ r ∧ r < 1 ∧
      (2 * (num % den) < den ↔ r < 1 / 2) ∧ (den < 2 * (num % den) ↔ 1 / 2 < r) := by
  have hd' : (0 : ℚ) < den := by exact_mod_cast hd
  have hdiv : (num : ℚ) = (num / den : Nat) * den + (num % den : Nat) := by
    exact_mod_cast (Nat.div_add_mod' num den).symm
  refine ⟨(num % den : Nat) / den, ?_, by positivity, ?_, ?_, ?_⟩
  · rw [eq_comm, ← mul_div_cancel_right₀ ((num / den : Nat) : ℚ) hd'.ne', ← add_div, ← hdiv]
  · rw [div_lt_one hd']
    exact_mod_cast Nat.mod_lt num hd
  · rw [div_lt_div_iff₀ hd' two_pos, one_mul, mul_comm]
    exact_mod_cast Iff.rfl
  · rw [div_lt_div_iff₀ two_pos hd', one_mul, mul_comm _ (2 : ℚ)]
    exact_mod_cast Iff.rfl

/-- An integer at most half away is what a quotient is rounded to, at half only if it is even. -/
theorem roundEven_of_between {num den q : Nat} (hd : 0 < den)
    (h : Between (q % 2 = 0) (q - 1 / 2) (num / den) (q + 1 / 2)) : roundEven num den = q := by
  obtain ⟨r, hx, hr0, hr1, hdown, hup⟩ := exists_fraction num hd
  obtain ⟨hlow, hhigh⟩ := h.le
  have heven (hr : r = 1 / 2) (heq : q = num / den ∨ q = num / den + 1) : q % 2 = 0 := by
    refine of_decide_eq_true (h.closed_of_eq ?_)
    rw [hx, hr]
    obtain heq | heq := heq
    · exact .inr (by rw [heq])
    · exact .inl (by rw [heq]; push_cast; ring)
  rw [hx] at hlow hhigh
  have hge : num / den < q + 1 := by
    have : ((num / den : Nat) : ℚ) < (q + 1 : Nat) := by push_cast; linarith
    exact_mod_cast this
  have hle : q < num / den + 2 := by
    have : (q : ℚ) < (num / den + 2 : Nat) := by push_cast; linarith
    exact_mod_cast this
  simp only [roundEven, hdown, hup]
  -- Away from one half only one integer is near enough; at one half two are, and one is even.
  obtain hlt | heq | hgt := lt_trichotomy r (1 / 2)
  · have : (q : ℚ) < (num / den + 1 : Nat) := by push_cast; linarith
    have : q < num / den + 1 := by exact_mod_cast this
    rw [if_pos hlt]
    omega
  · have hcases : q = num / den ∨ q = num / den + 1 := by omega
    have := heven heq hcases
    rw [if_neg heq.not_lt, if_neg heq.not_gt]
    split <;> omega
  · have : ((num / den : Nat) : ℚ) < (q : Nat) := by linarith
    have : num / den < q := by exact_mod_cast this
    rw [if_neg hgt.not_gt, if_pos hgt]
    omega

/-- A quotient is rounded to one of the integers next to it. -/
theorem roundEven_mem (num den : Nat) :
    roundEven num den = num / den ∨ roundEven num den = num / den + 1 := by
  simp only [roundEven]
  split
  · exact .inl rfl
  · split
    · exact .inr rfl
    · split
      · exact .inl rfl
      · exact .inr rfl

/-! ## The exponent -/

/-- A denominator stays positive when the quotient is scaled down. -/
theorem scaleDown_pos {den : Nat} (num : Nat) (hd : 0 < den) (e : Int) :
    0 < (scaleDown num den e).2 := by
  cases e with
  | ofNat k => exact Nat.mul_pos hd (Nat.pow_pos two_pos)
  | negSucc k => exact hd

/-- A quotient scaled down by a power of two. -/
theorem scaleDown_ratio (num den : Nat) (e : Int) :
    ((scaleDown num den e).1 : ℚ) / (scaleDown num den e).2 = num / den / 2 ^ e := by
  cases e with
  | ofNat k => simp [scaleDown, div_div]
  | negSucc k => simp [scaleDown, zpow_negSucc, div_eq_mul_inv, mul_right_comm]

/-- Whether what is scaled down has at most 53 bits. -/
theorem scaleDown_lt {num den : Nat} (hd : 0 < den) (e : Int) :
    (scaleDown num den e).1 < (scaleDown num den e).2 * 2 ^ 53 ↔
      (num / den : ℚ) < 2 ^ 53 * 2 ^ e := by
  have hpos : (0 : ℚ) < (scaleDown num den e).2 := by exact_mod_cast scaleDown_pos num hd e
  rw [← div_lt_iff₀ (by positivity), ← scaleDown_ratio, div_lt_iff₀ hpos, mul_comm (2 ^ 53 : ℚ)]
  exact_mod_cast Iff.rfl

/-- The binary logarithms of a quotient's parts bound it. -/
theorem log2_bounds {num den : Nat} (hn : 0 < num) (hd : 0 < den) :
    (2 : ℚ) ^ ((num.log2 : Int) - den.log2 - 1) ≤ num / den ∧
      (num / den : ℚ) < 2 ^ ((num.log2 : Int) - den.log2 + 1) := by
  have hd' : (0 : ℚ) < den := by exact_mod_cast hd
  have hnum : (2 : ℚ) ^ num.log2 ≤ num := by exact_mod_cast Nat.log2_self_le hn.ne'
  have hnum' : (num : ℚ) < 2 ^ (num.log2 + 1) := by exact_mod_cast Nat.lt_log2_self
  have hden : (2 : ℚ) ^ den.log2 ≤ den := by exact_mod_cast Nat.log2_self_le hd.ne'
  have hden' : (den : ℚ) < 2 ^ (den.log2 + 1) := by exact_mod_cast Nat.lt_log2_self
  constructor
  · rw [show (num.log2 : Int) - den.log2 - 1 = num.log2 - (den.log2 + 1 : Nat) by push_cast; ring,
      zpow_sub₀ two_ne_zero, zpow_natCast, zpow_natCast]
    exact div_le_div₀ (by positivity) hnum hd' hden'.le
  · rw [show (num.log2 : Int) - den.log2 + 1 = (num.log2 + 1 : Nat) - den.log2 by push_cast; ring,
      zpow_sub₀ two_ne_zero, zpow_natCast, zpow_natCast]
    exact div_lt_div₀ hnum' hden (by positivity) (by positivity)

/-- The exponent of a number: with it 53 bits are left, or fewer if it is the least. -/
structure IsExponent (x : ℚ) (e : Int) : Prop where
  least : minExponent ≤ e
  lt : x < 2 ^ 53 * 2 ^ e
  full : 2 ^ 52 * 2 ^ e ≤ x ∨ e = minExponent

/-- A number has one exponent. -/
theorem IsExponent.unique {x : ℚ} {e e' : Int} (h : IsExponent x e) (h' : IsExponent x e') :
    e = e' := by
  have below {e e' : Int} (h : IsExponent x e) (h' : IsExponent x e') : e' ≤ e := by
    by_contra hlt
    have hfull := h'.full.resolve_right (by have := h.least; omega)
    have hpow : (2 : ℚ) ^ (e + 1) ≤ 2 ^ e' := zpow_le_zpow_right₀ one_le_two (by omega)
    rw [zpow_add_one₀ two_ne_zero] at hpow
    have := h.lt
    linarith
  exact le_antisymm (below h' h) (below h h')

/-- What `exponentFor` finds is the exponent of a quotient. -/
theorem isExponent_exponentFor {num den : Nat} (hn : 0 < num) (hd : 0 < den) :
    IsExponent (num / den) (exponentFor num den) := by
  obtain ⟨hlow, hhigh⟩ := log2_bounds hn hd
  set g : Int := Int.ofNat num.log2 - Int.ofNat den.log2 - 53 with hg
  have hbits : (num.log2 : Int) - den.log2 = g + 53 := by rw [hg]; simp
  rw [hbits] at hlow hhigh
  have hlow' : (2 : ℚ) ^ 52 * 2 ^ g ≤ num / den := by
    rw [show g + 53 - 1 = (52 : Nat) + g by push_cast; ring, zpow_add₀ two_ne_zero,
      zpow_natCast] at hlow
    exact hlow
  have hhigh' : (num / den : ℚ) < 2 ^ 53 * 2 ^ (g + 1) := by
    rw [show g + 53 + 1 = (53 : Nat) + (g + 1) by push_cast; ring, zpow_add₀ two_ne_zero,
      zpow_natCast] at hhigh
    exact hhigh
  -- The exponent before it is kept from falling below the least one.
  obtain ⟨e, he, hfull, hlt⟩ : ∃ e, exponentFor num den = max e minExponent ∧
      (2 : ℚ) ^ 52 * 2 ^ e ≤ num / den ∧ (num / den : ℚ) < 2 ^ 53 * 2 ^ e := by
    by_cases hfits : (num / den : ℚ) < 2 ^ 53 * 2 ^ g
    · refine ⟨g, ?_, hlow', hfits⟩
      simp only [exponentFor, ← hg, Nat.pow_eq, (scaleDown_lt hd _).2 hfits, decide_true, if_true]
    · refine ⟨g + 1, ?_, ?_, hhigh'⟩
      · simp only [exponentFor, ← hg, Nat.pow_eq, (scaleDown_lt hd _).not.2 hfits, decide_false,
          (scaleDown_lt hd _).2 hhigh', decide_true, if_true, Bool.false_eq_true, if_false]
      · rw [zpow_add_one₀ two_ne_zero]
        linarith
  rw [he]
  obtain hle | hle := le_total e minExponent
  · rw [max_eq_right hle]
    have hpow : (2 : ℚ) ^ e ≤ 2 ^ minExponent := zpow_le_zpow_right₀ one_le_two hle
    exact ⟨le_rfl, by linarith, .inr rfl⟩
  · rw [max_eq_left hle]
    exact ⟨hle, hlt, .inl hfull⟩

/-! ## The interval of a double -/

namespace Interval

/-- The lower end of an interval. -/
def low (i : Interval) : ℚ := i.lower / i.denominator

/-- The double that an interval is around. -/
def mid (i : Interval) : ℚ := i.value / i.denominator

/-- The upper end of an interval. -/
def high (i : Interval) : ℚ := i.upper / i.denominator

/-- A number lies in an interval. -/
def Mem (i : Interval) (x : ℚ) : Prop := Between i.closed i.low x i.high

end Interval

/-- How far the numbers reach that are rounded up to a double, in units of its last place: half as
far if the double below it has a smaller exponent. -/
def reachBelow (mantissa : Nat) (exponent : Int) : ℚ :=
  if mantissa = 2 ^ 52 ∧ minExponent < exponent then 1 / 4 else 1 / 2

/-- One times a power of two, written as a quotient. -/
theorem ratio_one (e : Int) : ((ratio 1 e).1 : ℚ) / (ratio 1 e).2 = 2 ^ e := by
  cases e with
  | ofNat k => simp [ratio]
  | negSucc k => simp [ratio, zpow_negSucc]

/-- The ends of an interval have a denominator. -/
theorem denominator_pos (m : Nat) (e : Int) : 0 < (interval m e).denominator := by
  show 0 < (ratio 1 (e - 2)).2
  cases e - 2 with
  | ofNat => exact one_pos
  | negSucc => exact Nat.pow_pos two_pos

/-- The numbers of an interval are given in quarters of the double's last place. -/
theorem scale_eq (e : Int) : ((ratio 1 (e - 2)).1 : ℚ) / (ratio 1 (e - 2)).2 = 2 ^ e / 4 := by
  rw [ratio_one, zpow_sub₀ two_ne_zero]
  norm_num

/-- The interval starts as far below the double as numbers are rounded up to it. -/
theorem interval_low {m : Nat} (hm : 0 < m) (e : Int) :
    (interval m e).low = (m - reachBelow m e) * 2 ^ e := by
  have hscale := scale_eq e
  simp only [Interval.low, interval, reachBelow, Nat.pow_eq]
  split
  · rw [Nat.cast_mul, mul_div_assoc, hscale, Nat.cast_sub (by omega)]
    push_cast
    ring
  · rw [Nat.cast_mul, mul_div_assoc, hscale, Nat.cast_sub (by omega)]
    push_cast
    ring

/-- What an interval is around is the double. -/
theorem interval_mid (m : Nat) (e : Int) : (interval m e).mid = m * 2 ^ e := by
  have hscale := scale_eq e
  simp only [Interval.mid, interval]
  rw [Nat.cast_mul, mul_div_assoc, hscale]
  push_cast
  ring

/-- The interval ends half a unit of the last place above the double. -/
theorem interval_high (m : Nat) (e : Int) : (interval m e).high = (m + 1 / 2) * 2 ^ e := by
  have hscale := scale_eq e
  simp only [Interval.high, interval]
  rw [Nat.cast_mul, mul_div_assoc, hscale]
  push_cast
  ring

/-! ## What rounds to a double -/

/-- A quotient that rounds to fewer than 54 bits. -/
theorem ofRatio_rounded (negative : Bool) {num den q : Nat} {e : Int} (hn : 0 < num) (hd : 0 < den)
    (he : IsExponent (num / den) e)
    (hq : roundEven (scaleDown num den e).1 (scaleDown num den e).2 = q) (hlt : q ≠ 2 ^ 53) :
    ofRatio negative num den =
      if maxExponent < e then .infinite negative else .finite negative q e := by
  have hexp := (isExponent_exponentFor hn hd).unique he
  have hlt' : q ≠ Nat.pow 2 53 := hlt
  rw [ofRatio, if_neg hn.ne', hexp]
  simp only [hq, if_neg hlt']

/-- A quotient that rounds up to a power of two with 54 bits. -/
theorem ofRatio_carried (negative : Bool) {num den : Nat} {e : Int} (hn : 0 < num) (hd : 0 < den)
    (he : IsExponent (num / den) e)
    (hq : roundEven (scaleDown num den e).1 (scaleDown num den e).2 = 2 ^ 53) :
    ofRatio negative num den =
      if maxExponent < e + 1 then .infinite negative else .finite negative (2 ^ 52) (e + 1) := by
  have hexp := (isExponent_exponentFor hn hd).unique he
  have hq' : roundEven (scaleDown num den e).1 (scaleDown num den e).2 = Nat.pow 2 53 := hq
  rw [ofRatio, if_neg hn.ne', hexp]
  simp only [if_pos hq']
  rfl

/-- What is made of a quotient is a double. -/
theorem isDouble_ofRatio (negative : Bool) (num : Nat) {den : Nat} (hd : 0 < den) :
    (ofRatio negative num den).IsDouble := by
  obtain rfl | hn := num.eq_zero_or_pos
  · rw [ofRatio, if_pos rfl]
    exact ⟨by norm_num, le_rfl, by decide, .inr rfl⟩
  have he := isExponent_exponentFor hn hd
  generalize exponentFor num den = e at he
  have hpos := scaleDown_pos num hd e
  have hfloor : (scaleDown num den e).1 / (scaleDown num den e).2 < 2 ^ 53 := by
    have hlt := (scaleDown_lt hd e).2 he.lt
    exact (Nat.div_lt_iff_lt_mul hpos).2 (by rwa [mul_comm])
  have hmem := roundEven_mem (scaleDown num den e).1 (scaleDown num den e).2
  have hfull : 2 ^ 52 ≤ roundEven (scaleDown num den e).1 (scaleDown num den e).2 ∨
      e = minExponent := by
    refine he.full.imp_left fun hfull => ?_
    have hle : (2 : ℚ) ^ 52 ≤ (scaleDown num den e).1 / (scaleDown num den e).2 := by
      rw [scaleDown_ratio]
      exact (le_div_iff₀ (by positivity)).2 hfull
    rw [le_div_iff₀ (by exact_mod_cast hpos)] at hle
    have := (Nat.le_div_iff_mul_le hpos).2 (by exact_mod_cast hle : 2 ^ 52 * _ ≤ _)
    omega
  by_cases hcarry : roundEven (scaleDown num den e).1 (scaleDown num den e).2 = 2 ^ 53
  · rw [ofRatio_carried negative hn hd he hcarry]
    split
    next => trivial
    next hle => exact ⟨by norm_num, he.least.trans (by omega), not_lt.1 hle, .inl le_rfl⟩
  · rw [ofRatio_rounded negative hn hd he rfl hcarry]
    split
    next => trivial
    next hle => exact ⟨by omega, he.least, not_lt.1 hle, hfull⟩

/-- What is made of a decimal is a double. -/
theorem isDouble_ofDecimal (negative : Bool) (digits : Nat) (exponent : Int) :
    (ofDecimal negative digits exponent).IsDouble := by
  have hzero : (zero negative).IsDouble := isDouble_ofRatio negative 0 one_pos
  simp only [ofDecimal]
  split
  · exact hzero
  · split
    · trivial
    · split
      · exact hzero
      · cases exponent with
        | ofNat k => exact isDouble_ofRatio negative _ one_pos
        | negSucc k => exact isDouble_ofRatio negative _ (Nat.pow_pos (by decide))

variable {m num den : Nat} {e : Int}

/-- The interval of a double in units of its last place. -/
theorem mem_interval (hm : 0 < m) {x : ℚ} :
    (interval m e).Mem x ↔
      Between (m % 2 = 0) (m - reachBelow m e) (x / 2 ^ e) (m + 1 / 2) := by
  have hpow : (0 : ℚ) < 2 ^ e := by positivity
  rw [← between_mul hpow, div_mul_cancel₀ _ hpow.ne', ← interval_low hm, ← interval_high]
  rfl

/-- A number on the grid of a double that lies in the double's interval is rounded to it. -/
theorem ofRatio_of_full (negative : Bool) (h : IsNormal m e) (hm : 0 < m) (hn : 0 < num)
    (hd : 0 < den) (hx : (interval m e).Mem (num / den))
    (hfull : (2 ^ 52 : ℚ) ≤ num / den / 2 ^ e ∨ e = minExponent)
    (hlow : (m - 1 / 2 : ℚ) < num / den / 2 ^ e ∨ reachBelow m e = 1 / 2) :
    ofRatio negative num den = .finite negative m e := by
  have hpow : (0 : ℚ) < 2 ^ e := by positivity
  have hbetween := (mem_interval hm).1 hx
  have hexp : IsExponent (num / den) e := by
    have hlt : (m + 1 : ℚ) ≤ 2 ^ 53 := by exact_mod_cast Nat.succ_le_of_lt h.mantissa_lt
    refine ⟨h.least, ?_, hfull.imp_left (le_div_iff₀ hpow).1⟩
    have hhigh := hbetween.le.2
    rw [← div_lt_iff₀ hpow]
    linarith
  have hround : roundEven (scaleDown num den e).1 (scaleDown num den e).2 = m := by
    refine roundEven_of_between (scaleDown_pos num hd e) ?_
    rw [scaleDown_ratio]
    obtain hlow | hreach := hlow
    · exact hbetween.of_low_lt hlow
    · rwa [hreach] at hbetween
  rw [ofRatio_rounded negative hn hd hexp hround h.mantissa_lt.ne, if_neg h.greatest.not_gt]

/-- A number just below a power of two, on the finer grid of the doubles there, is rounded up to
the power. -/
theorem ofRatio_of_below (negative : Bool) (hleast : minExponent < e) (hgreatest : e ≤ maxExponent)
    (hn : 0 < num) (hd : 0 < den) (hlow : (2 ^ 52 - 1 / 4 : ℚ) ≤ num / den / 2 ^ e)
    (hlt : (num / den / 2 ^ e : ℚ) < 2 ^ 52) :
    ofRatio negative num den = .finite negative (2 ^ 52) e := by
  have hpow : (0 : ℚ) < 2 ^ e := by positivity
  have hhalf : (2 : ℚ) ^ (e - 1) = 2 ^ e / 2 := zpow_sub_one₀ two_ne_zero e
  have hdouble : (num / den / 2 ^ (e - 1) : ℚ) = 2 * (num / den / 2 ^ e) := by
    rw [hhalf]
    field_simp
  have hexp : IsExponent (num / den) (e - 1) := by
    refine ⟨by omega, ?_, .inl ?_⟩
    · rw [← div_lt_iff₀ (by positivity), hdouble]
      linarith
    · rw [← le_div_iff₀ (by positivity), hdouble]
      linarith
  have hround : roundEven (scaleDown num den (e - 1)).1 (scaleDown num den (e - 1)).2 = 2 ^ 53 := by
    refine roundEven_of_between (scaleDown_pos num hd (e - 1)) ?_
    rw [scaleDown_ratio, hdouble]
    have hclosed : decide (2 ^ 53 % 2 = 0) = true := by norm_num
    rw [hclosed]
    constructor
    · push_cast
      linarith
    · push_cast
      linarith
  rw [ofRatio_carried negative hn hd hexp hround, sub_add_cancel, if_neg hgreatest.not_gt]

/-- The numbers of the interval of a positive double are rounded to it. -/
theorem ofRatio_of_mem (negative : Bool) (h : IsNormal m e) (hm : 0 < m) (hd : 0 < den)
    (hx : (interval m e).Mem (num / den)) : ofRatio negative num den = .finite negative m e := by
  have hbetween := (mem_interval hm).1 hx
  obtain ⟨hlow, -⟩ := hbetween.le
  have hm1 : (1 : ℚ) ≤ m := by exact_mod_cast hm
  have hreach : reachBelow m e ≤ 1 / 2 := by
    rw [reachBelow]
    split <;> norm_num
  have hn : 0 < num := by
    by_contra hzero
    obtain rfl : num = 0 := by omega
    simp only [Nat.cast_zero, zero_div] at hlow
    linarith
  by_cases hpower : m = 2 ^ 52 ∧ minExponent < e
  · have hquarter : reachBelow m e = 1 / 4 := if_pos hpower
    obtain ⟨rfl, hleast⟩ := hpower
    rw [hquarter] at hlow
    push_cast at hlow
    obtain hlt | hge := lt_or_ge (num / den / 2 ^ e : ℚ) (2 ^ 52)
    · exact ofRatio_of_below negative hleast h.greatest hn hd hlow hlt
    · refine ofRatio_of_full negative h hm hn hd hx (.inl hge) (.inl ?_)
      push_cast
      linarith
  · have hhalf : reachBelow m e = 1 / 2 := if_neg hpower
    refine ofRatio_of_full negative h hm hn hd hx ?_ (.inr hhalf)
    refine h.full.symm.elim .inr fun hfull => ?_
    obtain heq | hgt := hfull.eq_or_lt
    · exact .inr (le_antisymm (not_lt.1 fun hlt => hpower ⟨heq.symm, hlt⟩) h.least)
    · have hgt' : (2 ^ 52 + 1 : ℚ) ≤ m := by exact_mod_cast Nat.succ_le_of_lt hgt
      rw [hhalf] at hlow
      exact .inl (by linarith)

end Voicemail.Binary64
