/-!
# Similar texts

How alike two texts are, for a suggestion where a name is unknown. The measure counts the
characters that the texts have in common: those of their longest common run, and then those on
either side of it. `closest` gives the few candidates that are alike enough, best first.
-/

namespace Voicemail.Text

/-- The number of characters that two texts start with in common. -/
def commonPrefix : List Char → List Char → Nat
  | a :: as, b :: bs => if a = b then commonPrefix as bs + 1 else 0
  | _, _ => 0

/-- A run of characters that two texts have in common. -/
structure Run where
  /-- Where it starts in the first text. -/
  left : Nat
  /-- Where it starts in the second text. -/
  right : Nat
  length : Nat
  deriving DecidableEq, Repr

/-- The longest common run of two texts: of several, the first in the first text, and of those the
first in the second. -/
def longestRun (a b : List Char) : Run :=
  let starts := (List.range a.length).flatMap fun i => (List.range b.length).map fun j => (i, j)
  starts.foldl (fun best (i, j) =>
    let n := commonPrefix (a.drop i) (b.drop j)
    if best.length < n then ⟨i, j, n⟩ else best) ⟨0, 0, 0⟩

/-- The number of characters that two texts have in common, with runs as many as the fuel at most
one inside the other. -/
def commonAux : Nat → List Char → List Char → Nat
  | 0, _, _ => 0
  | fuel + 1, a, b =>
    let r := longestRun a b
    if r.length = 0 then 0
    else commonAux fuel (a.take r.left) (b.take r.right) + r.length +
      commonAux fuel (a.drop (r.left + r.length)) (b.drop (r.right + r.length))

/-- The number of characters that two texts have in common. -/
def common (a b : String) : Nat := commonAux a.length a.toList b.toList

/-- How alike a candidate is to a name, as a fraction: the common characters of both texts by the
characters of both. -/
structure Likeness where
  candidate : String
  common : Nat
  total : Nat

/-- How alike a candidate is to a name. -/
def likeness (name candidate : String) : Likeness :=
  ⟨candidate, 2 * common candidate name, candidate.length + name.length⟩

/-- Whether a candidate is alike enough: three fifths of the characters are common. -/
def Likeness.isClose (l : Likeness) : Bool := 3 * l.total ≤ 5 * l.common

/-- Whether a candidate goes before another: it is more alike, or as alike and later in order. -/
def Likeness.goesBefore (l m : Likeness) : Bool :=
  m.common * l.total < l.common * m.total ||
    (m.common * l.total = l.common * m.total && m.candidate ≤ l.candidate)

/-- The candidates that are like a name, three at most, the most alike first. -/
def closest (name : String) (candidates : List String) : List String :=
  let close := (candidates.map (likeness name)).filter (·.isClose)
  ((close.mergeSort Likeness.goesBefore).take 3).map (·.candidate)

end Voicemail.Text
