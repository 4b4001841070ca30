/-!
Base64 over the URL-safe alphabet.  Writing leaves the padding out.  Reading is lenient: it takes
both alphabets, passes over every other character, and stops at padding that completes a group.
-/
namespace GraphGateway.Bytes.Base64

/-- The digit of a number below 64. -/
def digit (number : Nat) : Char :=
  if number < 26 then Char.ofNat ('A'.toNat + number)
  else if number < 52 then Char.ofNat ('a'.toNat + (number - 26))
  else if number < 62 then Char.ofNat ('0'.toNat + (number - 52))
  else if number = 62 then '-'
  else '_'

/-- The number of a digit of either alphabet. -/
def digitValue? (c : Char) : Option Nat :=
  if 'A' ≤ c && c ≤ 'Z' then some (c.toNat - 'A'.toNat)
  else if 'a' ≤ c && c ≤ 'z' then some (c.toNat - 'a'.toNat + 26)
  else if '0' ≤ c && c ≤ '9' then some (c.toNat - '0'.toNat + 52)
  else if c = '-' || c = '+' then some 62
  else if c = '_' || c = '/' then some 63
  else none

/-- Three bytes make four digits; one byte left over makes two, two make three. -/
def encode : List UInt8 → List Char
  | [] => []
  | [a] => [digit (a.toNat / 4), digit (a.toNat % 4 * 16)]
  | [a, b] =>
      [digit (a.toNat / 4), digit (a.toNat % 4 * 16 + b.toNat / 16), digit (b.toNat % 16 * 4)]
  | a :: b :: c :: rest =>
      digit (a.toNat / 4) :: digit (a.toNat % 4 * 16 + b.toNat / 16) ::
        digit (b.toNat % 16 * 4 + c.toNat / 64) :: digit (c.toNat % 64) :: encode rest

/-- Reads on within a group: `place` digits of it have come, `carry` holds the bits of them that no
byte has taken yet, and `pads` counts the padding since the last digit.  A group may not end after
its first digit, nor without padding after its second or third. -/
def decodeFrom (place carry pads : Nat) : List Char → Option (List UInt8)
  | [] => if place = 0 then some [] else none
  | c :: rest =>
      if c = '=' then
        if place < 2 then decodeFrom place carry pads rest
        else if 4 ≤ place + pads + 1 then some []
        else decodeFrom place carry (pads + 1) rest
      else
        match digitValue? c with
        | none => decodeFrom place carry pads rest
        | some number =>
            match place with
            | 0 => decodeFrom 1 number 0 rest
            | 1 =>
                (decodeFrom 2 (number % 16) 0 rest).map (UInt8.ofNat (carry * 4 + number / 16) :: ·)
            | 2 =>
                (decodeFrom 3 (number % 4) 0 rest).map (UInt8.ofNat (carry * 16 + number / 4) :: ·)
            | _ => (decodeFrom 0 0 0 rest).map (UInt8.ofNat (carry * 64 + number) :: ·)

def decode? (text : List Char) : Option (List UInt8) :=
  decodeFrom 0 0 0 text

end GraphGateway.Bytes.Base64
