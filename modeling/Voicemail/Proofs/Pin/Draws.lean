import Mathlib.Algebra.Order.Ring.Nat
import Mathlib.Data.Nat.Digits.Lemmas
import Mathlib.Order.Interval.Finset.Nat
import Voicemail.Proofs.Client.Run

/-!
# Random PINs

A draw is one of `10 ^ 10` numbers, and the PIN that it gives is the beginning of the draw's ten
digits. Read as a number, the first `n` of the digits are the draw divided by `10 ^ (10 - n)`, and a
text of `n` digits is known by its number, so that each of them is the PIN of one block of
`10 ^ (10 - n)` draws: every PIN of a length is as likely as any other (`Client.drawPin_fair`).
-/

namespace Voicemail

namespace Pin

/-! ## Digits and their number -/

/-- What a digit counts. -/
abbrev digitValue (d : Char) : Nat := d.toNat - '0'.toNat

/-- The number that digits stand for. -/
def value (ds : List Char) : Nat := Nat.ofDigits 10 (ds.reverse.map digitValue)

/-- A digit counts less than ten. -/
theorem digitValue_lt {d : Char} (hd : d.isDigit = true) : digitValue d < 10 := by
  have hnine : d.toNat ≤ 57 := (Char.isDigit_iff_toNat.1 hd).2
  show d.toNat - 48 < 10
  omega

/-- A digit is the one that is written for what it counts. -/
theorem digitChar_digitValue {d : Char} (hd : d.isDigit = true) : (digitValue d).digitChar = d := by
  have hzero : 48 ≤ d.toNat := (Char.isDigit_iff_toNat.1 hd).1
  have hvalue : digitValue d = d.toNat - 48 := rfl
  refine Char.toNat_inj.1 ?_
  rw [Nat.toNat_digitChar_of_lt_ten (digitValue_lt hd)]
  omega

/-- The numbers of a digit text are digits to the base ten. -/
theorem forall_mem_digits_lt {ds : List Char} (hds : ds.all Char.isDigit = true) :
    ∀ n ∈ ds.reverse.map digitValue, n < 10 := by
  simp only [List.mem_map, List.mem_reverse]
  rintro _ ⟨d, hd, rfl⟩
  exact digitValue_lt (List.all_eq_true.1 hds d hd)

/-- The first digit counts by its place. -/
theorem value_cons (d : Char) (ds : List Char) :
    value (d :: ds) = value ds + 10 ^ ds.length * digitValue d := by
  simp [value, Nat.ofDigits_append]

/-- It is the number that is read from left to right. -/
theorem value_eq_ofDigitChars (ds : List Char) : value ds = Nat.ofDigitChars 10 ds 0 := by
  induction ds with
  | nil => rfl
  | cons d ds ih =>
    rw [Nat.ofDigitChars_cons, Nat.ofDigitChars_eq_ofDigitChars_zero, ← ih, value_cons,
      Nat.mul_zero, Nat.zero_add, Nat.add_comm]

/-- Digits stand for a number below the power of ten with their count. -/
theorem value_lt {ds : List Char} (hds : ds.all Char.isDigit = true) :
    value ds < 10 ^ ds.length := by
  simpa [value] using Nat.ofDigits_lt_base_pow_length (by norm_num) (forall_mem_digits_lt hds)

/-- The first digits stand for the number without its last places. -/
theorem value_take {ds : List Char} (hds : ds.all Char.isDigit = true) (n : Nat) :
    value (ds.take n) = value ds / 10 ^ (ds.length - n) := by
  rw [value, value, Nat.ofDigits_div_pow_eq_ofDigits_drop _ (by norm_num) _
    (forall_mem_digits_lt hds), ← List.map_drop, List.reverse_take]

/-- Digits are the ones that are written for what they count. -/
theorem map_digitChar {ds : List Char} (hds : ds.all Char.isDigit = true) :
    (ds.map digitValue).map Nat.digitChar = ds := by
  have hall : ∀ d ∈ ds, (digitValue d).digitChar = d :=
    fun d hd => digitChar_digitValue (List.all_eq_true.1 hds d hd)
  rw [List.map_map]
  exact (List.map_congr_left hall).trans (List.map_id ds)

/-- Digits of one count are known by their number. -/
theorem value_inj {as bs : List Char} (has : as.all Char.isDigit = true)
    (hbs : bs.all Char.isDigit = true) (hlength : as.length = bs.length)
    (hvalue : value as = value bs) : as = bs := by
  have hdigits : as.reverse.map digitValue = bs.reverse.map digitValue :=
    Nat.ofDigits_inj_of_len_eq (by norm_num) (by simpa using hlength) (forall_mem_digits_lt has)
      (forall_mem_digits_lt hbs) hvalue
  rw [List.map_reverse, List.map_reverse, List.reverse_inj] at hdigits
  rw [← map_digitChar has, ← map_digitChar hbs, hdigits]

/-! ## PINs -/

/-- A text that is a PIN of a length: so many decimal digits. -/
structure IsPin (length : Nat) (pin : String) : Prop where
  length : pin.length = length
  digits : pin.toList.all Char.isDigit = true

/-- How many draws there are. -/
def drawCount : Nat := 10 ^ maxLength

/-- A draw is written with digits. -/
theorem all_isDigit_drawDigits (draw : Nat) : (drawDigits draw).all Char.isDigit = true := by
  have hdigits : ∀ d ∈ Nat.toDigits 10 draw, d.isDigit = true :=
    fun _ => Nat.isDigit_of_mem_toDigits (by norm_num) le_rfl
  simp only [drawDigits, List.all_append, List.all_replicate, Bool.and_eq_true, List.all_eq_true]
  exact ⟨by simp, hdigits⟩

/-- A draw is the number of its digits. -/
theorem value_drawDigits (draw : Nat) : value (drawDigits draw) = draw := by
  rw [value_eq_ofDigitChars, drawDigits, Nat.ofDigitChars_append, Nat.ofDigitChars_replicate_zero,
    Nat.mul_zero, Nat.ofDigitChars_ten_toDigits]

/-- There are ten digits or more; -/
theorem maxLength_le_length_drawDigits (draw : Nat) : maxLength ≤ (drawDigits draw).length := by
  rw [drawDigits, List.length_append, List.length_replicate]
  omega

/-- ten for every draw that there is. -/
theorem length_drawDigits {draw : Nat} (h : draw < drawCount) :
    (drawDigits draw).length = maxLength := by
  have hlength : (Nat.toDigits 10 draw).length ≤ maxLength :=
    (Nat.length_toDigits_le_iff (by norm_num) (by decide)).2 h
  rw [drawDigits, List.length_append, List.length_replicate]
  omega

/-- A draw gives a PIN of every length. -/
theorem isPin_ofDraw {n : Nat} (hn : n ≤ maxLength) (draw : Nat) : IsPin n (ofDraw n draw) where
  length := by
    have hlength := maxLength_le_length_drawDigits draw
    rw [ofDraw, String.length_ofList, List.length_take]
    omega
  digits := by
    rw [ofDraw, String.toList_ofList, List.all_eq_true]
    exact fun d hd => List.all_eq_true.1 (all_isDigit_drawDigits draw) d (List.mem_of_mem_take hd)

/-- The number of a draw's PIN is the draw without its last places. -/
theorem value_ofDraw {draw : Nat} (h : draw < drawCount) (n : Nat) :
    value (ofDraw n draw).toList = draw / 10 ^ (maxLength - n) := by
  rw [ofDraw, String.toList_ofList, value_take (all_isDigit_drawDigits draw), value_drawDigits,
    length_drawDigits h]

/-- A PIN is the one of a draw exactly if it is so by its number. -/
theorem ofDraw_eq_iff {draw n : Nat} (h : draw < drawCount) (hn : n ≤ maxLength) {pin : String}
    (hpin : IsPin n pin) :
    ofDraw n draw = pin ↔ draw / 10 ^ (maxLength - n) = value pin.toList := by
  have hdraw := isPin_ofDraw hn draw
  refine ⟨fun heq => by rw [← heq, value_ofDraw h], fun hvalue => ?_⟩
  refine String.toList_inj.1 (value_inj hdraw.digits hpin.digits ?_ ?_)
  · rw [String.length_toList, String.length_toList, hdraw.length, hpin.length]
  · rw [value_ofDraw h, hvalue]

/-- Among the multiples of a number there are as many numbers with one quotient as it counts. -/
theorem card_filter_div {d q k : Nat} (hd : 0 < d) (hk : k < q) :
    ((Finset.range (q * d)).filter (· / d = k)).card = d := by
  have hblock : (Finset.range (q * d)).filter (· / d = k) = Finset.Ico (k * d) ((k + 1) * d) := by
    ext v
    have hbelow : (k + 1) * d ≤ q * d := Nat.mul_le_mul_right d hk
    rw [Finset.mem_filter, Finset.mem_range, Finset.mem_Ico, Nat.div_eq_iff hd]
    have hnext : (k + 1) * d = k * d + d := Nat.succ_mul k d
    omega
  rw [hblock, Nat.card_Ico, Nat.succ_mul, Nat.add_sub_cancel_left]

/-- Every PIN of a length is the one of equally many draws. -/
theorem card_filter_ofDraw {n : Nat} (hn : n ≤ maxLength) {pin : String} (hpin : IsPin n pin) :
    ((Finset.range drawCount).filter (ofDraw n · = pin)).card = 10 ^ (maxLength - n) := by
  have hvalue : value pin.toList < 10 ^ n := by
    rw [← hpin.length, ← String.length_toList]
    exact value_lt hpin.digits
  have hcount : drawCount = 10 ^ n * 10 ^ (maxLength - n) := by
    rw [drawCount, ← Nat.pow_add, Nat.add_sub_cancel' hn]
  have hblock : (Finset.range drawCount).filter (ofDraw n · = pin) =
      (Finset.range drawCount).filter (· / 10 ^ (maxLength - n) = value pin.toList) :=
    Finset.filter_congr fun draw hdraw => ofDraw_eq_iff (Finset.mem_range.1 hdraw) hn hpin
  rw [hblock, hcount, card_filter_div (by positivity) hvalue]

/-- A shorter PIN of a draw is the beginning of a longer one. -/
theorem ofDraw_prefix {m n : Nat} (h : m ≤ n) (draw : Nat) :
    (ofDraw m draw).toList <+: (ofDraw n draw).toList := by
  rw [ofDraw, ofDraw, String.toList_ofList, String.toList_ofList]
  exact List.take_prefix_take_left h

/-- PINs have the lengths from one to ten. -/
theorem isLength_iff {length : Int} : isLength length = true ↔ 1 ≤ length ∧ length ≤ 10 := by
  rw [isLength, Bool.and_eq_true, decide_eq_true_eq, decide_eq_true_eq]
  rfl

end Pin

namespace Client

/-! ## Drawing -/

/-- The client with another draw before those to come. -/
def facing (draw : Nat) (c : Client) : Client := { c with draws := draw :: c.draws }

/-- An operation that draws PINs of any length is fair. -/
structure IsFair (generate : Int → ClientM String) : Prop where
  /-- Every draw gives a PIN of the length, and is used up by it. -/
  isPin : ∀ n : Nat, 1 ≤ n → n ≤ 10 → ∀ draw < Pin.drawCount, ∀ c : Client,
    ∃ pin, generate n (c.facing draw) = (.ok pin, c) ∧ Pin.IsPin n pin
  /-- Every text of so many digits is the PIN of equally many draws. -/
  uniform : ∀ n : Nat, 1 ≤ n → n ≤ 10 → ∀ pin, Pin.IsPin n pin → ∀ c : Client,
    ((Finset.range Pin.drawCount).filter fun draw =>
      (generate n (c.facing draw)).1.toOption = some pin).card = 10 ^ (10 - n)
  /-- A shorter PIN of a draw is the beginning of a longer one. -/
  nested : ∀ m n : Nat, 1 ≤ m → m ≤ n → n ≤ 10 → ∀ draw < Pin.drawCount, ∀ c : Client,
    ∃ short long, generate m (c.facing draw) = (.ok short, c) ∧
      generate n (c.facing draw) = (.ok long, c) ∧ short.toList <+: long.toList
  /-- For any other length there is a failure and no draw. -/
  refused : ∀ n : Int, ¬(1 ≤ n ∧ n ≤ 10) → ∀ c : Client,
    generate n c = (.error (.invalidPinLength n), c)

/-- A PIN of a length from one to ten is the one of the next draw. -/
theorem drawPin_facing {n : Nat} (hpos : 1 ≤ n) (hn : n ≤ 10) (draw : Nat) (c : Client) :
    drawPin n (c.facing draw) = (.ok (Pin.ofDraw n draw), c) := by
  have hlength : Pin.isLength n = true := Pin.isLength_iff.2 (by omega)
  rw [drawPin_of_isLength hlength]
  rfl

/-- Every PIN of a length is as likely as any other. -/
theorem drawPin_fair : IsFair drawPin where
  isPin n hpos hn draw _ c := ⟨_, drawPin_facing hpos hn draw c, Pin.isPin_ofDraw hn draw⟩
  uniform n hpos hn pin hpin c := by
    have hsame (draw : Nat) :
        (drawPin n (c.facing draw)).1.toOption = some pin ↔ Pin.ofDraw n draw = pin := by
      rw [drawPin_facing hpos hn]
      exact Option.some_inj
    simp only [hsame]
    exact Pin.card_filter_ofDraw hn hpin
  nested m n hpos hle hn draw _ c :=
    ⟨_, _, drawPin_facing hpos (hle.trans hn) draw c, drawPin_facing (hpos.trans hle) hn draw c,
      Pin.ofDraw_prefix hle draw⟩
  refused n hn c :=
    drawPin_of_not_isLength (by simpa using mt Pin.isLength_iff.1 hn) c

end Client

/-- The draw keeps its leading zeros. -/
example : Pin.ofDraw 4 31415926 = "0031" := by decide

end Voicemail
