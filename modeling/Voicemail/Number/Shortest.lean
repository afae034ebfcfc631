import Voicemail.Number.Binary64

/-!
# Shortest decimals

`Binary64.shortest` gives the decimal with the fewest digits that reads back as a double, and among
those the nearest to it. The numbers that read back as a double form an interval around it that
reaches half way to its neighbours, ends included when the mantissa is even. A decimal grid with a
point in that interval has one of the two points next to the double in it, so trying those two for
one digit, two digits and so on finds the shortest.
-/

namespace Voicemail.Binary64

/-- A positive double between the ends of the interval that rounds to it, over one denominator. -/
structure Interval where
  lower : Nat
  value : Nat
  upper : Nat
  denominator : Nat
  /-- Whether the ends belong to it. -/
  closed : Bool

/-- The interval of the numbers that round to `mantissa * 2 ^ exponent`. -/
def interval (mantissa : Nat) (exponent : Int) : Interval :=
  let below := if mantissa = Nat.pow 2 52 ∧ minExponent < exponent then 1 else 2
  let (scale, denominator) := ratio 1 (exponent - 2)
  { lower := (4 * mantissa - below) * scale
    value := 4 * mantissa * scale
    upper := (4 * mantissa + 2) * scale
    denominator
    closed := mantissa % 2 = 0 }

/-- Every number of an interval times `10 ^ k`. -/
def Interval.shift (i : Interval) : Int → Interval
  | .ofNat k =>
    let p := Nat.pow 10 k
    { i with lower := i.lower * p, value := i.value * p, upper := i.upper * p }
  | .negSucc k => { i with denominator := i.denominator * Nat.pow 10 (k + 1) }

/-- Whether an integer lies in an interval. -/
def Interval.contains (i : Interval) (n : Nat) : Bool :=
  let x := n * i.denominator
  if i.closed then i.lower ≤ x && x ≤ i.upper else i.lower < x && x < i.upper

/-- The integer of an interval that is nearest to its value, of the two next to the value. -/
def Interval.nearest? (i : Interval) : Option Nat :=
  let down := i.value / i.denominator
  let up := down + 1
  match i.contains down, i.contains up with
  | false, false => none
  | true, false => some down
  | false, true => some up
  | true, true =>
    let toDown := i.value - down * i.denominator
    let toUp := up * i.denominator - i.value
    if toDown < toUp then some down
    else if toUp < toDown then some up
    else if down % 2 = 0 then some down else some up

/-- The number of digits before the point of the value of an interval; zero or less for a value
below a tenth. -/
def Interval.magnitude (i : Interval) : Int :=
  let bits : Int := Int.ofNat i.value.log2 - Int.ofNat i.denominator.log2
  let guess : Int := bits * 30103 / 100000 - 1
  let below (p : Int) : Bool := let j := i.shift (-p); j.value < j.denominator
  if below guess then guess
  else if below (guess + 1) then guess + 1
  else if below (guess + 2) then guess + 2
  else guess + 3

/-- A number without its trailing zeros, and how many there were. -/
def stripZeros : Nat → Nat → Int → Nat × Int
  | 0, n, k => (n, k)
  | fuel + 1, n, k => if n % 10 = 0 ∧ n ≠ 0 then stripZeros fuel (n / 10) (k + 1) else (n, k)

/-- The first of the grids with `digits`, `digits + 1`, … digits that meets an interval. -/
def Interval.firstGrid (i : Interval) (magnitude : Int) : Nat → Nat → Nat × Int
  | 0, digits =>
    let k : Int := magnitude - Int.ofNat digits
    let j := i.shift (-k)
    (j.value / j.denominator, k)
  | fuel + 1, digits =>
    let k : Int := magnitude - Int.ofNat digits
    match (i.shift (-k)).nearest? with
    | some n => stripZeros 20 n k
    | none => i.firstGrid magnitude fuel (digits + 1)

/-- The shortest decimal `d * 10 ^ k` that reads back as the positive double
`mantissa * 2 ^ exponent`, as the pair of `d` and `k`. -/
def shortest (mantissa : Nat) (exponent : Int) : Nat × Int :=
  let i := interval mantissa exponent
  i.firstGrid i.magnitude 17 1

end Voicemail.Binary64
