import Voicemail.Failure

/-!
# PINs

The PIN that a carrier gives a new mailbox is derived from the subscriber's identifier; the one that
replaces it is drawn at random, with a length that the carrier's policy asks for. A draw is a number
below `10 ^ 10`, written with ten digits and cut, so that every PIN of a length is as likely as any
other.
-/

namespace Voicemail.Pin

/-- The length of a PIN where no policy says otherwise. -/
def defaultLength : Int := 6

/-- The greatest length of a PIN. -/
def maxLength : Nat := 10

/-- How many characters of an identifier the default PIN takes, and the fewest it must have. -/
def identifierDigits : Nat := 4

/-- The PIN that a carrier derives from the identifier `number@domain` of a new mailbox: a one and
the last four characters of the number. -/
def derive? (identifier : String) : Option String :=
  let s := identifier.toList
  let number := s.takeWhile (· ≠ '@')
  if number.length = s.length ∨ number.length < identifierDigits then none
  else some (String.ofList ('1' :: number.drop (number.length - identifierDigits)))

/-- The ten digits of a draw. -/
def drawDigits (draw : Nat) : List Char :=
  let ds := Nat.toDigits 10 draw
  List.replicate (maxLength - ds.length) '0' ++ ds

/-- Whether a PIN can have a length. -/
def isLength (length : Int) : Bool := 1 ≤ length && length ≤ maxLength

/-- The PIN of a length that a draw gives. -/
def ofDraw (length : Nat) (draw : Nat) : String := String.ofList ((drawDigits draw).take length)

/-- The lengths that a carrier allows. -/
structure LengthPolicy where
  minimum : Int
  maximum : Int
  deriving DecidableEq, Repr

/-- The parts of a text between the occurrences of a character. -/
def splitAt (mark : Char) : List Char → List (List Char)
  | [] => [[]]
  | c :: rest =>
    if c = mark then [] :: splitAt mark rest
    else match splitAt mark rest with
      | [] => [[c]]
      | part :: parts => (c :: part) :: parts

/-- The policy that `minimum-maximum` writes. Where there is no such text, or no number for the
minimum, the minimum is the default; where there is no number for the maximum, it is ten. -/
def LengthPolicy.parse (raw : Option String) (default : Int) : LengthPolicy :=
  match splitAt '-' (raw.getD "").toList with
  | [low, high] =>
    match Text.readInt? low with
    | none => ⟨default, maxLength⟩
    | some minimum => ⟨minimum, (Text.readInt? high).getD maxLength⟩
  | _ => ⟨default, maxLength⟩

/-- The least length of a policy. -/
def minimumLength (raw : Option String) (default : Int) : Int :=
  (LengthPolicy.parse raw default).minimum

/-- The length of a PIN for a policy: its minimum, brought into the range of lengths. -/
def clampLength (length : Int) : Nat := (min (max length 1) maxLength).toNat

/-- It is the nearest length that PINs have. -/
theorem natCast_clampLength (length : Int) :
    (clampLength length : Int) = min (max length 1) maxLength :=
  Int.toNat_of_nonneg (by unfold maxLength; omega)

/-- PINs have it. -/
theorem isLength_clampLength (length : Int) : isLength (clampLength length) = true := by
  have hclamp := natCast_clampLength length
  have hlow : 1 ≤ (clampLength length : Int) := by simp only [maxLength] at hclamp; omega
  have hhigh : (clampLength length : Int) ≤ maxLength := by omega
  rw [isLength, decide_eq_true hlow, decide_eq_true hhigh, Bool.and_self]

end Voicemail.Pin
