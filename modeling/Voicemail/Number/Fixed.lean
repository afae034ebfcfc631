import Voicemail.Number.Layout

/-!
# Doubles with a chosen number of digits

Decimal forms of a double where the writer asks for a number of digits: after the point, in an
exponent form, or significant ones in whichever of the two is shorter. The exact value is rounded
once, a tie to the even digit.
-/

namespace Voicemail.Binary64

/-- A positive quotient times `10 ^ k`, rounded. -/
def scaledDigits (num den : Nat) : Int → Nat
  | .ofNat k => roundEven (num * Nat.pow 10 k) den
  | .negSucc k => roundEven num (den * Nat.pow 10 (k + 1))

/-- A decimal numeral with at least `width` digits. -/
def paddedDigits (width n : Nat) : List Char :=
  let ds := Nat.toDigits 10 n
  List.replicate (width - ds.length) '0' ++ ds

/-- How many of some decimal places of a quotient may hold other digits than zeros: one for each
halving in the divisor, if that is a power of two. -/
def livePlaces (places den : Nat) : Nat :=
  if Nat.pow 2 den.log2 = den then min places den.log2 else places

/-- A quotient with `places` digits after the point; `keepPoint` keeps a point with none. -/
def fixedPoint (keepPoint : Bool) (places num den : Nat) : List Char :=
  let live := livePlaces places den
  let ds := paddedDigits (live + 1) (scaledDigits num den (Int.ofNat live))
  let whole := ds.take (ds.length - live)
  let fraction := ds.drop (ds.length - live) ++ List.replicate (places - live) '0'
  whole ++ (if fraction.isEmpty && !keepPoint then [] else '.' :: fraction)

/-- The scientific exponent of a positive quotient. -/
def scientificExponent (num den : Nat) : Int :=
  (Interval.magnitude ⟨0, num, 0, den, true⟩) - 1

/-- The first `digits` significant digits of a quotient, rounded, and the exponent of the first. -/
def significant (digits num den : Nat) : List Char × Int :=
  if num = 0 then (List.replicate digits '0', 0)
  else
    let e := scientificExponent num den
    let places := Int.ofNat digits - 1 - e
    let live := min places (Int.ofNat (livePlaces places.toNat den))
    let idle := (places - live).toNat
    let ds := paddedDigits (digits - idle) (scaledDigits num den live) ++ List.replicate idle '0'
    if digits < ds.length then (ds.take digits, e + 1) else (ds, e)

/-- The exponent part of a number, with two digits at least. -/
def exponentPart (mark : Char) (e : Int) : List Char :=
  mark :: (if e < 0 then '-' else '+') :: paddedDigits 2 e.natAbs

/-- A quotient in exponent form with `places` digits after the point. -/
def exponentForm (keepPoint : Bool) (mark : Char) (places num den : Nat) : List Char :=
  let (ds, e) := significant (places + 1) num den
  ds.take 1 ++ (if places = 0 && !keepPoint then [] else '.' :: ds.drop 1) ++ exponentPart mark e

/-- A text without the zeros at its end. -/
def dropTrailingZeros (ds : List Char) : List Char :=
  (ds.reverse.dropWhile (· = '0')).reverse

/-- A quotient with `digits` significant digits: positional while the exponent is small, else in
exponent form. Zeros at the end are dropped unless `keepZeros`. With `keepPlace` a positional form
has a digit after its point, and leaves room for it. -/
def generalForm (keepZeros keepPlace : Bool) (mark : Char) (digits num den : Nat) : List Char :=
  let digits := max digits 1
  let (ds, e) := significant digits num den
  let limit : Int := if keepPlace then Int.ofNat digits - 1 else Int.ofNat digits
  let tidy (fraction : List Char) : List Char :=
    let fraction := if keepZeros then fraction else dropTrailingZeros fraction
    if fraction.isEmpty && !keepZeros then [] else '.' :: fraction
  if -4 ≤ e ∧ e < limit then
    match e with
    | .ofNat k =>
      let fraction := tidy (ds.drop (k + 1))
      ds.take (k + 1) ++
        (if keepPlace && fraction.length ≤ 1 then ['.', '0'] else fraction)
    | .negSucc k => '0' :: tidy (List.replicate k '0' ++ ds)
  else ds.take 1 ++ tidy (ds.drop 1) ++ exponentPart mark e

end Voicemail.Binary64
