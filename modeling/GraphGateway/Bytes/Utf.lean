import GraphGateway.Text.Surrogate

/-!
Text in bytes: UTF-8, UTF-16 and UTF-32, and the rule by which a JSON text shows its encoding in its
first bytes.  A surrogate on its own passes, as the private character that carries it.
-/
namespace GraphGateway.Bytes

open Text (isHighSurrogate isLowSurrogate surrogatePair unitChar)

def ofString (text : String) : List UInt8 :=
  text.toUTF8.data.toList

/-- The low six bits of a byte that continues a character. -/
def continuation? (byte : UInt8) : Option Nat :=
  if 0x80 ≤ byte && byte < 0xC0 then some (byte.toNat - 0x80) else none

/-- A character that needs at least `least` as its number, or a surrogate. -/
def charFrom? (least code : Nat) : Option Char :=
  if code < least || 0x110000 ≤ code then none else some (unitChar code)

def decodeUtf8? : List UInt8 → Option (List Char)
  | [] => some []
  | a :: rest =>
      if a < 0x80 then (decodeUtf8? rest).map (Char.ofNat a.toNat :: ·)
      else
        match rest with
        | [] => none
        | b :: rest =>
            match continuation? b with
            | none => none
            | some second =>
                if a < 0xE0 then
                  if a < 0xC2 then none
                  else (decodeUtf8? rest).map (Char.ofNat ((a.toNat - 0xC0) * 64 + second) :: ·)
                else
                  match rest with
                  | [] => none
                  | c :: rest =>
                      match continuation? c with
                      | none => none
                      | some third =>
                          if a < 0xF0 then
                            match charFrom? 0x800
                                ((a.toNat - 0xE0) * 4096 + second * 64 + third) with
                            | none => none
                            | some read => (decodeUtf8? rest).map (read :: ·)
                          else
                            match rest with
                            | [] => none
                            | d :: rest =>
                                match continuation? d with
                                | none => none
                                | some fourth =>
                                    match charFrom? 0x10000 ((a.toNat - 0xF0) * 262144 +
                                        second * 4096 + third * 64 + fourth) with
                                    | none => none
                                    | some read => (decodeUtf8? rest).map (read :: ·)

/-- The order of the bytes of one unit. -/
inductive Order where
  | most
  | least

def Order.unit (order : Order) (a b : UInt8) : Nat :=
  match order with
  | .most => a.toNat * 256 + b.toNat
  | .least => b.toNat * 256 + a.toNat

def units16? (order : Order) : List UInt8 → Option (List Nat)
  | [] => some []
  | [_] => none
  | a :: b :: rest => (units16? order rest).map (order.unit a b :: ·)

def joinSurrogates : List Nat → List Char
  | [] => []
  | [unit] => [unitChar unit]
  | first :: second :: rest =>
      if isHighSurrogate first && isLowSurrogate second then
        surrogatePair first second :: joinSurrogates rest
      else unitChar first :: joinSurrogates (second :: rest)

def decodeUtf16? (order : Order) (bytes : List UInt8) : Option (List Char) :=
  (units16? order bytes).map joinSurrogates

def decodeUtf32? (order : Order) : List UInt8 → Option (List Char)
  | [] => some []
  | a :: b :: c :: d :: rest =>
      let code := match order with
        | .most => order.unit a b * 65536 + order.unit c d
        | .least => order.unit c d * 65536 + order.unit a b
      match charFrom? 0 code with
      | none => none
      | some read => (decodeUtf32? order rest).map (read :: ·)
  | _ => none

/-- The characters of a JSON text in bytes.  A byte order mark names the encoding; without one the
zeros among the first four bytes do, since a JSON text starts with ASCII characters. -/
def decodeJson? (bytes : List UInt8) : Option (List Char) :=
  if [0x00, 0x00, 0xFE, 0xFF].isPrefixOf bytes then decodeUtf32? .most (bytes.drop 4)
  else if [0xFF, 0xFE, 0x00, 0x00].isPrefixOf bytes then decodeUtf32? .least (bytes.drop 4)
  else if [0xFE, 0xFF].isPrefixOf bytes then decodeUtf16? .most (bytes.drop 2)
  else if [0xFF, 0xFE].isPrefixOf bytes then decodeUtf16? .least (bytes.drop 2)
  else if [0xEF, 0xBB, 0xBF].isPrefixOf bytes then decodeUtf8? (bytes.drop 3)
  else match bytes with
  | a :: b :: c :: d :: _ =>
      if a = 0 then
        if b = 0 then decodeUtf32? .most bytes else decodeUtf16? .most bytes
      else if b = 0 then
        if c = 0 && d = 0 then decodeUtf32? .least bytes else decodeUtf16? .least bytes
      else decodeUtf8? bytes
  | [a, b] =>
      if a = 0 then decodeUtf16? .most bytes
      else if b = 0 then decodeUtf16? .least bytes
      else decodeUtf8? bytes
  | _ => decodeUtf8? bytes

end GraphGateway.Bytes
