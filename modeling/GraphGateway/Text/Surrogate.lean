/-!
Surrogates.  Two of them stand for one character; one on its own stands for none.  A text that holds
such a one carries it as a private character in its place: U+FB800 to U+FBFFF carry U+D800 to U+DFFF.
A text that really holds one of these private characters is taken as if it held the surrogate.
-/
namespace GraphGateway.Text

def isHighSurrogate (unit : Nat) : Bool := 0xD800 ≤ unit && unit < 0xDC00

def isLowSurrogate (unit : Nat) : Bool := 0xDC00 ≤ unit && unit < 0xE000

/-- The character that two surrogates stand for. -/
def surrogatePair (high low : Nat) : Char :=
  Char.ofNat (0x10000 + (high - 0xD800) * 0x400 + (low - 0xDC00))

/-- The first of the private characters that carry surrogates. -/
def firstCarrier : Nat := 0xFB800

/-- The character of a unit, or the one that carries it. -/
def unitChar (unit : Nat) : Char :=
  if 0xD800 ≤ unit && unit < 0xE000 then Char.ofNat (firstCarrier + (unit - 0xD800))
  else Char.ofNat unit

/-- The surrogate that a character carries. -/
def carried? (c : Char) : Option Nat :=
  if firstCarrier ≤ c.toNat && c.toNat < firstCarrier + 0x800 then
    some (0xD800 + (c.toNat - firstCarrier))
  else none

end GraphGateway.Text
