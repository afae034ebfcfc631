/-!
# UTF-8

`Utf8.decode` gives the characters of bytes, or the first place where the bytes are no text: which
bytes they are, and why. A character has one form only, its shortest.
-/

namespace Voicemail.Text.Utf8

/-- Why bytes are no text. -/
inductive Complaint where
  | invalidStart
  | invalidContinuation
  | unexpectedEnd
  deriving DecidableEq, Repr

/-- The wording of a complaint. -/
def Complaint.message : Complaint → String
  | .invalidStart => "invalid start byte"
  | .invalidContinuation => "invalid continuation byte"
  | .unexpectedEnd => "unexpected end of data"

/-- Bytes that are no text: the first of them, where it stands, and how many they are. -/
structure Fault where
  first : UInt8
  position : Nat
  count : Nat
  complaint : Complaint
  deriving DecidableEq, Repr

/-- A byte with two hexadecimal digits. -/
def byteText (b : UInt8) : String :=
  let ds := Nat.toDigits 16 b.toNat
  String.ofList (List.replicate (2 - ds.length) '0' ++ ds)

/-- The wording of a fault. -/
def Fault.message (f : Fault) : String :=
  let which :=
    if f.count = 1 then s!"byte 0x{byteText f.first} in position {f.position}"
    else s!"bytes in position {f.position}-{f.position + f.count - 1}"
  s!"'utf-8' codec can't decode {which}: {f.complaint.message}"

/-- How many bytes go on after a first byte, and the range of the next one. -/
def following? (b : UInt8) : Option (Nat × UInt8 × UInt8) :=
  if b < 0x80 then some (0, 0, 0)
  else if b < 0xc2 then none
  else if b < 0xe0 then some (1, 0x80, 0xbf)
  else if b = 0xe0 then some (2, 0xa0, 0xbf)
  else if b = 0xed then some (2, 0x80, 0x9f)
  else if b < 0xf0 then some (2, 0x80, 0xbf)
  else if b = 0xf0 then some (3, 0x90, 0xbf)
  else if b < 0xf4 then some (3, 0x80, 0xbf)
  else if b = 0xf4 then some (3, 0x80, 0x8f)
  else none

/-- The bits of a first byte that belong to the character. -/
def firstBits (b : UInt8) : Nat :=
  if b < 0x80 then b.toNat
  else if b < 0xe0 then b.toNat - 0xc0
  else if b < 0xf0 then b.toNat - 0xe0
  else b.toNat - 0xf0

/-- A character that is being read. -/
structure Pending where
  first : UInt8
  /-- How many bytes of it were read. -/
  read : Nat
  /-- How many bytes of it are to come. -/
  missing : Nat
  /-- The range of the next byte. -/
  low : UInt8
  high : UInt8
  /-- Its bits so far. -/
  bits : Nat

/-- The characters of bytes, from a position on, with a character that is being read. -/
def decodeFrom (position : Nat) (pending : Option Pending) :
    List UInt8 → Except Fault (List Char)
  | [] =>
    match pending with
    | none => .ok []
    | some p => .error ⟨p.first, position - p.read, p.read, .unexpectedEnd⟩
  | b :: rest =>
    match pending with
    | some p =>
      if b < p.low || p.high < b then
        .error ⟨p.first, position - p.read, p.read, .invalidContinuation⟩
      else
        let bits := p.bits * 64 + (b.toNat - 0x80)
        if p.missing ≤ 1 then
          (decodeFrom (position + 1) none rest).map (Char.ofNat bits :: ·)
        else
          decodeFrom (position + 1)
            (some { p with read := p.read + 1, missing := p.missing - 1, low := 0x80, high := 0xbf,
                           bits })
            rest
    | none =>
      match following? b with
      | none => .error ⟨b, position, 1, .invalidStart⟩
      | some (0, _, _) => (decodeFrom (position + 1) none rest).map (Char.ofNat b.toNat :: ·)
      | some (n, low, high) =>
        decodeFrom (position + 1) (some ⟨b, 1, n, low, high, firstBits b⟩) rest

/-- The characters of bytes. -/
def decode (bytes : List UInt8) : Except Fault (List Char) := decodeFrom 0 none bytes

end Voicemail.Text.Utf8
