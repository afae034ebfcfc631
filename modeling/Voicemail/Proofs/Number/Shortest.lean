import Mathlib.Data.Rat.Floor
import Voicemail.Proofs.Number.Rounding

/-!
# The shortest decimal reads back

`shortest` tries decimal grids with more and more digits until one has a point in the double's
interval. With seventeen digits there always is one (`exists_nearest?`), because the first digit
stands where the estimate of the magnitude says (`pow_magnitude_le`) and the grid is then finer
than the interval. So what is found lies in the interval (`shortest_mem`), and whoever reads a
number of that value makes the double of it (`ofDecimal_shortest`).
-/

namespace Voicemail.Binary64

/-! ## Moving an interval by powers of ten -/

namespace Interval

variable {i : Interval}

/-- The ends of an interval that is shifted have a denominator. -/
theorem shift_denominator_pos (hd : 0 < i.denominator) (k : Int) : 0 < (i.shift k).denominator := by
  cases k with
  | ofNat => exact hd
  | negSucc => exact Nat.mul_pos hd (Nat.pow_pos (by decide))

/-- Shifting an interval does not change whether its ends count. -/
theorem shift_closed (i : Interval) (k : Int) : (i.shift k).closed = i.closed := by
  cases k <;> rfl

/-- Shifting an interval by powers of ten multiplies its lower end by them, -/
theorem shift_low (i : Interval) (k : Int) : (i.shift k).low = i.low * 10 ^ k := by
  cases k with
  | ofNat k => simp [shift, low, mul_div_right_comm]
  | negSucc k => simp [shift, low, zpow_negSucc, ← div_eq_mul_inv, div_div]

/-- what it is around, -/
theorem shift_mid (i : Interval) (k : Int) : (i.shift k).mid = i.mid * 10 ^ k := by
  cases k with
  | ofNat k => simp [shift, mid, mul_div_right_comm]
  | negSucc k => simp [shift, mid, zpow_negSucc, ← div_eq_mul_inv, div_div]

/-- and its upper end. -/
theorem shift_high (i : Interval) (k : Int) : (i.shift k).high = i.high * 10 ^ k := by
  cases k with
  | ofNat k => simp [shift, high, mul_div_right_comm]
  | negSucc k => simp [shift, high, zpow_negSucc, ← div_eq_mul_inv, div_div]

/-- A number lies in an interval exactly if the shifted number lies in the shifted interval. -/
theorem mem_shift {x : ℚ} (k : Int) : (i.shift k).Mem (x * 10 ^ k) ↔ i.Mem x := by
  rw [Mem, shift_closed, shift_low, shift_high, between_mul (by positivity)]
  rfl

/-- What `contains` decides. -/
theorem contains_iff (hd : 0 < i.denominator) (n : Nat) : i.contains n = true ↔ i.Mem n := by
  have hd' : (0 : ℚ) < i.denominator := by exact_mod_cast hd
  have hlow : i.low ≤ n ↔ i.lower ≤ n * i.denominator := by
    rw [low, div_le_iff₀ hd']
    exact_mod_cast Iff.rfl
  have hhigh : n ≤ i.high ↔ n * i.denominator ≤ i.upper := by
    rw [high, le_div_iff₀ hd']
    exact_mod_cast Iff.rfl
  have hlow' : i.low < n ↔ i.lower < n * i.denominator := by
    rw [low, div_lt_iff₀ hd']
    exact_mod_cast Iff.rfl
  have hhigh' : n < i.high ↔ n * i.denominator < i.upper := by
    rw [high, lt_div_iff₀ hd']
    exact_mod_cast Iff.rfl
  rw [contains, Mem, Between]
  split <;> simp [hlow, hhigh, hlow', hhigh']

/-- The nearest integer of an interval lies in it. -/
theorem contains_of_nearest? {n : Nat} (h : i.nearest? = some n) : i.contains n = true := by
  simp only [nearest?] at h
  split at h
  next => cases h
  next hdown _ => cases h; exact hdown
  next _ hup => cases h; exact hup
  next hdown hup =>
    split at h
    · cases h; exact hdown
    · split at h
      · cases h; exact hup
      · split at h
        · cases h; exact hdown
        · cases h; exact hup

/-- One of the two integers next to the value suffices for a nearest one. -/
theorem isSome_nearest? (h : i.contains (i.value / i.denominator) = true ∨
    i.contains (i.value / i.denominator + 1) = true) : i.nearest?.isSome := by
  simp only [nearest?]
  split
  next hdown hup => simp [hdown, hup] at h
  next => rfl
  next => rfl
  next => split_ifs <;> rfl

/-- An interval that reaches more than a half to both sides, or one upwards, has an integer next to
its value. -/
theorem exists_nearest? (hd : 0 < i.denominator)
    (h : 1 / 2 < i.mid - i.low ∧ 1 / 2 < i.high - i.mid ∨ i.low < i.mid ∧ 1 < i.high - i.mid) :
    i.nearest?.isSome := by
  obtain ⟨r, hmid, hr0, hr1, -⟩ := exists_fraction i.value hd
  rw [show (i.value / i.denominator : ℚ) = i.mid from rfl] at hmid
  have hcontains {n : Nat} (hlow : i.low < n) (hhigh : n < i.high) : i.contains n = true :=
    (contains_iff hd n).2 (.of_lt hlow hhigh)
  refine isSome_nearest? ?_
  obtain ⟨hlow, hhigh⟩ | ⟨hlow, hhigh⟩ := h
  · obtain hle | hlt := le_or_gt r (1 / 2)
    · exact .inl (hcontains (by linarith) (by linarith))
    · exact .inr (hcontains (by push_cast; linarith) (by push_cast; linarith))
  · exact .inr (hcontains (by push_cast; linarith) (by push_cast; linarith))

end Interval

/-! ## The magnitude -/

/-- A power of ten is at most a power of two where three decimal digits take ten bits. -/
theorem ten_zpow_le {x z : Int} (hx : 0 ≤ x) (h : 10 * x ≤ 3 * z) : (10 : ℚ) ^ x ≤ 2 ^ z := by
  refine (pow_le_pow_iff_left₀ (by positivity) (by positivity) three_ne_zero).1 ?_
  calc ((10 : ℚ) ^ x) ^ 3 = (10 ^ 3) ^ x := by rw [← zpow_natCast, ← zpow_natCast, zpow_comm]
    _ ≤ (2 ^ 10) ^ x := zpow_le_zpow_left₀ hx (by norm_num) (by norm_num)
    _ = 2 ^ (10 * x) := by rw [← zpow_natCast, ← zpow_mul]; rfl
    _ ≤ 2 ^ (z * 3) := zpow_le_zpow_right₀ one_le_two (by omega)
    _ = (2 ^ z) ^ 3 := by rw [zpow_mul]; rfl

/-- A negative power of ten is at most a power of two where ninety-three bits take twenty-eight
decimal digits. -/
theorem ten_zpow_neg_le {x z : Int} (hx : x ≤ 0) (h : 93 * x ≤ 28 * z) :
    (10 : ℚ) ^ x ≤ 2 ^ z := by
  refine (pow_le_pow_iff_left₀ (by positivity) (by positivity) (by norm_num : 28 ≠ 0)).1 ?_
  calc ((10 : ℚ) ^ x) ^ 28 = (10 ^ 28) ^ x := by rw [← zpow_natCast, ← zpow_natCast, zpow_comm]
    _ = ((10 ^ 28)⁻¹) ^ (-x) := by rw [inv_zpow', neg_neg]
    _ ≤ ((2 ^ 93)⁻¹) ^ (-x) := zpow_le_zpow_left₀ (by omega) (by positivity) (by norm_num)
    _ = (2 ^ 93) ^ x := by rw [inv_zpow', neg_neg]
    _ = 2 ^ (93 * x) := by rw [← zpow_natCast, ← zpow_mul]; rfl
    _ ≤ 2 ^ (z * 28) := zpow_le_zpow_right₀ one_le_two (by omega)
    _ = (2 ^ z) ^ 28 := by rw [zpow_mul]; rfl

/-- The first guess at a magnitude is not too large. -/
theorem guess_le {b : Int} (hlow : -1200 ≤ b) (hhigh : b ≤ 1200) :
    (10 : ℚ) ^ (b * 30103 / 100000 - 1 - 1) ≤ 2 ^ (b - 1) := by
  obtain hx | hx := le_total 0 (b * 30103 / 100000 - 1 - 1)
  · exact ten_zpow_le hx (by omega)
  · exact ten_zpow_neg_le hx (by omega)

variable {i : Interval}

/-- Whether an interval's value is below a power of ten, as `magnitude` asks. -/
theorem below_iff (hd : 0 < i.denominator) (p : Int) :
    (i.shift (-p)).value < (i.shift (-p)).denominator ↔ i.mid < 10 ^ p := by
  have hpos : (0 : ℚ) < (i.shift (-p)).denominator := by
    exact_mod_cast Interval.shift_denominator_pos hd (-p)
  have hshift : i.mid < 10 ^ p ↔ (i.shift (-p)).mid < 1 := by
    rw [Interval.shift_mid, zpow_neg, ← div_eq_mul_inv, div_lt_one (by positivity)]
  rw [hshift, Interval.mid, div_lt_one hpos]
  exact_mod_cast Iff.rfl

/-- The first digit of an interval's value stands where its magnitude says, or further up. -/
theorem pow_magnitude_le (hv : 0 < i.value) (hd : 0 < i.denominator)
    (hlow : -1200 ≤ (i.value.log2 : Int) - i.denominator.log2)
    (hhigh : (i.value.log2 : Int) - i.denominator.log2 ≤ 1200) :
    (10 : ℚ) ^ (i.magnitude - 1) ≤ i.mid := by
  simp only [Interval.magnitude, decide_eq_true_eq, below_iff hd]
  split
  next => exact (guess_le hlow hhigh).trans (log2_bounds hv hd).1
  next h₀ =>
    split
    next => rw [add_sub_cancel_right]; exact not_lt.1 h₀
    next h₁ =>
      split
      next => rw [add_sub_assoc]; exact not_lt.1 h₁
      next h₂ => rw [add_sub_assoc]; exact not_lt.1 h₂

/-! ## The grids -/

/-- Dropping the zeros at the end of a number changes nothing. -/
theorem stripZeros_value (fuel n : Nat) (k : Int) :
    ((stripZeros fuel n k).1 : ℚ) * 10 ^ (stripZeros fuel n k).2 = n * 10 ^ k := by
  induction fuel generalizing n k with
  | zero => rfl
  | succ fuel ih =>
    rw [stripZeros]
    split
    next h =>
      have htens : (n : ℚ) = (n / 10 : Nat) * 10 := by
        exact_mod_cast (Nat.div_mul_cancel (Nat.dvd_of_mod_eq_zero h.1)).symm
      rw [ih, htens, zpow_add_one₀ (by norm_num)]
      ring
    next => rfl

/-- A grid that meets an interval gives a number of the interval. -/
theorem stripZeros_mem (hd : 0 < i.denominator) {k : Int} {n : Nat}
    (hn : (i.shift (-k)).nearest? = some n) (fuel : Nat) :
    i.Mem ((stripZeros fuel n k).1 * 10 ^ (stripZeros fuel n k).2) := by
  have hcontains := Interval.contains_of_nearest? hn
  rw [Interval.contains_iff (Interval.shift_denominator_pos hd _)] at hcontains
  rw [stripZeros_value, ← Interval.mem_shift (-k), mul_assoc, ← zpow_add₀ (by norm_num),
    add_neg_cancel, zpow_zero, mul_one]
  exact hcontains

/-- If the grid with the most digits meets an interval, what `firstGrid` finds lies in it. -/
theorem firstGrid_mem (hd : 0 < i.denominator) (M : Int) (fuel digits : Nat)
    (hlast : (i.shift (-(M - Int.ofNat (digits + fuel)))).nearest?.isSome) :
    i.Mem ((i.firstGrid M (fuel + 1) digits).1 * 10 ^ (i.firstGrid M (fuel + 1) digits).2) := by
  induction fuel generalizing digits with
  | zero =>
    obtain ⟨n, hn⟩ := Option.isSome_iff_exists.1 hlast
    rw [Nat.add_zero] at hn
    simp only [Interval.firstGrid, hn]
    exact stripZeros_mem hd hn 20
  | succ fuel ih =>
    rw [Interval.firstGrid]
    cases hn : (i.shift (-(M - Int.ofNat digits))).nearest? with
    | some n => exact stripZeros_mem hd hn 20
    | none => exact ih (digits + 1) (by rwa [Nat.add_right_comm, Nat.add_assoc])

/-! ## The shortest decimal of a double -/

variable {m : Nat} {e : Int}

/-- A positive double's interval reaches further than half a place of a grid with seventeen
digits. -/
theorem IsNormal.exists_nearest? (h : IsNormal m e) (hm : 0 < m) {k : Int}
    (hk : (10 : ℚ) ^ 16 ≤ (interval m e).mid * 10 ^ k) :
    ((interval m e).shift k).nearest?.isSome := by
  refine Interval.exists_nearest? (Interval.shift_denominator_pos (denominator_pos m e) k) ?_
  have hscale : (0 : ℚ) < 2 ^ e * 10 ^ k := by positivity
  have hlt : (m : ℚ) < 2 ^ 53 := by exact_mod_cast h.mantissa_lt
  rw [interval_mid, mul_assoc] at hk
  rw [Interval.shift_low, Interval.shift_mid, Interval.shift_high, interval_low hm, interval_mid,
    interval_high, mul_assoc, mul_assoc, mul_assoc, reachBelow]
  generalize (2 : ℚ) ^ e * 10 ^ k = u at hk hscale ⊢
  split
  next hpower =>
    rw [hpower.1] at hk ⊢
    right
    push_cast at hk ⊢
    constructor <;> linarith
  next =>
    have hmu : (m : ℚ) * u < 2 ^ 53 * u := mul_lt_mul_of_pos_right hlt hscale
    left
    constructor <;> linarith

/-- The range of doubles. -/
theorem IsNormal.value_bounds (h : IsNormal m e) (hm : 0 < m) :
    (2 : ℚ) ^ minExponent ≤ m * 2 ^ e ∧ (m * 2 ^ e : ℚ) < 2 ^ (maxExponent + 53) := by
  have hone : (1 : ℚ) ≤ m := by exact_mod_cast hm
  have hlt : (m : ℚ) < 2 ^ 53 := by exact_mod_cast h.mantissa_lt
  have hleast : (2 : ℚ) ^ minExponent ≤ 2 ^ e := zpow_le_zpow_right₀ one_le_two h.least
  have hgreatest : (2 : ℚ) ^ e ≤ 2 ^ maxExponent := zpow_le_zpow_right₀ one_le_two h.greatest
  have hpow : (0 : ℚ) < 2 ^ e := by positivity
  constructor
  · exact hleast.trans (le_mul_of_one_le_left hpow.le hone)
  · rw [zpow_add₀ two_ne_zero, mul_comm (2 ^ maxExponent : ℚ)]
    exact mul_lt_mul hlt hgreatest hpow (by positivity)

/-- The interval of a double with a positive mantissa is around a positive number. -/
theorem value_pos (hm : 0 < m) : 0 < (interval m e).value := by
  have hscale : 0 < (ratio 1 (e - 2)).1 := by
    cases e - 2 with
    | ofNat k => exact Nat.mul_pos one_pos (Nat.pow_pos two_pos)
    | negSucc => exact one_pos
  exact Nat.mul_pos (Nat.mul_pos four_pos hm) hscale

/-- The first digit of a positive double stands where its magnitude says, or further up. -/
theorem IsNormal.pow_magnitude_le (h : IsNormal m e) (hm : 0 < m) :
    (10 : ℚ) ^ ((interval m e).magnitude - 1) ≤ (interval m e).mid := by
  have hv := value_pos (e := e) hm
  have hd := denominator_pos m e
  obtain ⟨hlow, hhigh⟩ := log2_bounds hv hd
  obtain ⟨hleast, hgreatest⟩ := h.value_bounds hm
  rw [← interval_mid] at hleast hgreatest
  have hmin := (zpow_lt_zpow_iff_right₀ one_lt_two).1 (hleast.trans_lt hhigh)
  have hmax := (zpow_lt_zpow_iff_right₀ one_lt_two).1 (hlow.trans_lt hgreatest)
  simp only [minExponent, maxExponent] at hmin hmax
  exact Binary64.pow_magnitude_le hv hd (by omega) (by omega)

/-- The shortest decimal of a positive double lies in the double's interval. -/
theorem shortest_mem (h : IsNormal m e) (hm : 0 < m) :
    (interval m e).Mem ((shortest m e).1 * 10 ^ (shortest m e).2) := by
  refine firstGrid_mem (denominator_pos m e) _ 16 1 (h.exists_nearest? hm ?_)
  have hle := h.pow_magnitude_le hm
  have hpow : (10 : ℚ) ^ 16 = 10 ^ ((interval m e).magnitude - 1) *
      10 ^ (-((interval m e).magnitude - Int.ofNat (1 + 16))) := by
    rw [← zpow_add₀ (by norm_num), ← zpow_natCast]
    congr 1
    rw [Int.ofNat_eq_natCast]
    push_cast
    ring
  rw [hpow]
  exact mul_le_mul_of_nonneg_right hle (by positivity)

/-! ## Reading back -/

/-- A number has as many digits as the power of ten below it says. -/
theorem digits_bounds {D : Nat} (hD : 0 < D) (E : Int) :
    (10 : ℚ) ^ (E + Int.ofNat (Nat.toDigits 10 D).length - 1) ≤ D * 10 ^ E ∧
      (D * 10 ^ E : ℚ) < 10 ^ (E + Int.ofNat (Nat.toDigits 10 D).length) := by
  have hlength : 0 < (Nat.toDigits 10 D).length := Nat.length_toDigits_pos
  have hupper := (Nat.length_toDigits_le_iff (by norm_num : 1 < 10) hlength).1 le_rfl
  have hlower : 10 ^ ((Nat.toDigits 10 D).length - 1) ≤ D := by
    obtain hone | hmore := (by omega : (Nat.toDigits 10 D).length = 1 ∨
      0 < (Nat.toDigits 10 D).length - 1)
    · rw [hone]
      exact hD
    · refine not_lt.1 fun hlt => ?_
      have := (Nat.length_toDigits_le_iff (by norm_num : 1 < 10) hmore).2 hlt
      omega
  have hpow : (0 : ℚ) < 10 ^ E := by positivity
  constructor
  · rw [show E + Int.ofNat (Nat.toDigits 10 D).length - 1 =
        ((Nat.toDigits 10 D).length - 1 : Nat) + E by simp only [Int.ofNat_eq_natCast]; omega,
      zpow_add₀ (by norm_num), zpow_natCast]
    exact mul_le_mul_of_nonneg_right (by exact_mod_cast hlower) hpow.le
  · rw [add_comm, zpow_add₀ (by norm_num), Int.ofNat_eq_natCast, zpow_natCast]
    exact mul_lt_mul_of_pos_right (by exact_mod_cast hupper) hpow

/-- A number of the interval of a positive double is not far outside the range of doubles. -/
theorem IsNormal.range (h : IsNormal m e) (hm : 0 < m) {x : ℚ} (hx : (interval m e).Mem x) :
    (10 : ℚ) ^ (-401 : Int) < x ∧ x < 10 ^ (400 : Int) := by
  obtain ⟨hlow, hhigh⟩ := hx.le
  obtain ⟨hleast, hgreatest⟩ := h.value_bounds hm
  have hone : (1 : ℚ) ≤ m := by exact_mod_cast hm
  have hreach : reachBelow m e ≤ 1 / 2 := by
    rw [reachBelow]
    split <;> norm_num
  have hpow : (0 : ℚ) < 2 ^ e := by positivity
  have hsmall : (10 : ℚ) ^ (-400 : Int) ≤ 2 ^ (-1075 : Int) := ten_zpow_neg_le (by omega) (by omega)
  have hlarge : (2 : ℚ) ^ (1075 : Int) ≤ 10 ^ (400 : Int) := by
    rwa [zpow_neg, zpow_neg, inv_le_inv₀ (by positivity) (by positivity)] at hsmall
  rw [interval_low hm] at hlow
  rw [interval_high] at hhigh
  constructor
  · calc (10 : ℚ) ^ (-401 : Int) < 10 ^ (-400 : Int) :=
          zpow_lt_zpow_right₀ (by norm_num) (by omega)
      _ ≤ 2 ^ (minExponent - 1) := hsmall
      _ = 2 ^ minExponent / 2 := zpow_sub_one₀ two_ne_zero _
      _ ≤ x := by nlinarith
  · calc x < 2 * 2 ^ (maxExponent + 53) := by nlinarith
      _ = 2 ^ (maxExponent + 53 + 1) := by rw [zpow_add_one₀ two_ne_zero, mul_comm]
      _ ≤ 2 ^ (1075 : Int) := zpow_le_zpow_right₀ one_le_two (by decide)
      _ ≤ 10 ^ (400 : Int) := hlarge

/-- A number of the interval of a positive double is read as the double. -/
theorem ofDecimal_of_mem (negative : Bool) (h : IsNormal m e) (hm : 0 < m) {D : Nat} {E : Int}
    (hx : (interval m e).Mem (D * 10 ^ E)) : ofDecimal negative D E = .finite negative m e := by
  obtain ⟨hsmall, hlarge⟩ := h.range hm hx
  have hD : D ≠ 0 := by
    rintro rfl
    rw [Nat.cast_zero, zero_mul] at hsmall
    exact absurd hsmall (by norm_num)
  obtain ⟨hlower, hupper⟩ := digits_bounds hD.bot_lt E
  have hnot400 := (zpow_lt_zpow_iff_right₀ (by norm_num)).1 (hlower.trans_lt hlarge)
  have hnot401 := (zpow_lt_zpow_iff_right₀ (by norm_num)).1 (hsmall.trans hupper)
  have hbelow : ¬400 < E + Int.ofNat (Nat.toDigits 10 D).length := by omega
  have habove : ¬E + Int.ofNat (Nat.toDigits 10 D).length < -400 := by omega
  simp only [ofDecimal, if_neg hD, if_neg hbelow, if_neg habove]
  cases E with
  | ofNat k =>
    refine ofRatio_of_mem negative h hm one_pos ?_
    simpa using hx
  | negSucc k =>
    refine ofRatio_of_mem negative h hm (Nat.pow_pos (by norm_num)) ?_
    simpa [zpow_negSucc, div_eq_mul_inv] using hx

/-- Whatever is written with the value of the shortest decimal of a positive double is read as the
double. -/
theorem ofDecimal_shortest (negative : Bool) (h : IsNormal m e) (hm : 0 < m) {D : Nat} {E : Int}
    (hvalue : (D * 10 ^ E : ℚ) = (shortest m e).1 * 10 ^ (shortest m e).2) :
    ofDecimal negative D E = .finite negative m e := by
  refine ofDecimal_of_mem negative h hm ?_
  rw [hvalue]
  exact shortest_mem h hm

end Voicemail.Binary64
