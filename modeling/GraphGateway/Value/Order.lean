import GraphGateway.Decimal.Binary
import GraphGateway.Value

/-!
Equality and order of values: numbers by size, truth values as zero and one, texts by their
characters, lists by the first items that differ.  No other two values have an order.
-/
namespace GraphGateway.Value

/-- A value as a number: a double that is no number is none. -/
inductive Magnitude where
  | number (size : Decimal.Extended)
  | unordered

def magnitude? : Value → Option Magnitude
  | .bool flag => some (.number (.ofInt (if flag then 1 else 0)))
  | .int number => some (.number (.ofInt number))
  | .float number =>
      match Decimal.Extended.ofFloat? number with
      | some size => some (.number size)
      | none => some .unordered
  | _ => none

/-- Whether two values are numbers of one size. -/
def sameMagnitude (first second : Value) : Bool :=
  match first.magnitude?, second.magnitude? with
  | some (.number one), some (.number other) => !one.less other && !other.less one
  | _, _ => false

/-- Whether the first of two numbers is less than the second. -/
def lessMagnitude? (first second : Value) : Option Bool :=
  match first.magnitude?, second.magnitude? with
  | some (.number one), some (.number other) => some (one.less other)
  | some _, some _ => some false
  | _, _ => none

mutual

/-- Whether two values are equal.  A number equals numbers of other kinds, and the entries of
objects may come in any order. -/
def same : Value → Value → Bool
  | .null, second => second.isNull
  | .text one, .text other => one == other
  | .list items, .list others => sameItems items others
  | .object entries, .object others =>
      entries.length == others.length && sameEntries entries others
  | .bool flag, second => sameMagnitude (.bool flag) second
  | .int number, second => sameMagnitude (.int number) second
  | .float number, second => sameMagnitude (.float number) second
  | _, _ => false

def sameItems : List Value → List Value → Bool
  | [], [] => true
  | first :: rest, second :: others => same first second && sameItems rest others
  | _, _ => false

def sameEntries : List (String × Value) → List (String × Value) → Bool
  | [], _ => true
  | (key, value) :: rest, others =>
      (match Entries.get? others key with
        | some other => same value other
        | none => false) && sameEntries rest others

end

mutual

/-- Whether the first value is less than the second, if they have an order. -/
def less? : Value → Value → Option Bool
  | .text one, .text other => some (decide (one < other))
  | .list items, .list others => lessItems? items others
  | .list _, _ => none
  | .text _, _ => none
  | .object _, _ => none
  | .null, _ => none
  | .bool flag, second => lessMagnitude? (.bool flag) second
  | .int number, second => lessMagnitude? (.int number) second
  | .float number, second => lessMagnitude? (.float number) second

def lessItems? : List Value → List Value → Option Bool
  | _, [] => some false
  | [], _ :: _ => some true
  | first :: rest, second :: others =>
      if same first second then lessItems? rest others else less? first second

end

/-- Whether a value can be a key: none that has items can. -/
def isKey : Value → Bool
  | .list _ => false
  | .object _ => false
  | _ => true

/-- The first of each set of equal values. -/
def distinctItems (items : List Value) : List Value :=
  items.foldl (fun kept item => if kept.any (·.same item) then kept else kept ++ [item]) []

section

variable {α : Type}

/-- The items at the head that go on from a key in one direction, and those after them.  Items fall
as long as each is less than the one before it; they rise as long as none is. -/
def runFrom? (falls : Bool) (last : Value) :
    List (Value × α) → Option (List (Value × α) × List (Value × α))
  | [] => some ([], [])
  | item :: rest =>
      match item.1.less? last with
      | none => none
      | some isLess =>
          if isLess = falls then
            (runFrom? falls item.1 rest).map fun (run, others) => (item :: run, others)
          else some ([], item :: rest)

/-- The place of a key among sorted items, after those that are not greater; the search halves what
lies between two places. -/
def placeOf? (sorted : List (Value × α)) (key : Value) (low high : Nat) : Option Nat :=
  if low < high then
    let middle := (low + high) / 2
    match sorted[middle]? with
    | none => none
    | some item =>
        match key.less? item.1 with
        | none => none
        | some true => placeOf? sorted key low middle
        | some false => placeOf? sorted key (middle + 1) high
  else some low
  termination_by high - low

/-- Puts an item in its place among sorted ones. -/
def insertSorted? (sorted : List (Value × α)) (item : Value × α) : Option (List (Value × α)) :=
  (placeOf? sorted item.1 0 sorted.length).map fun place =>
    sorted.take place ++ item :: sorted.drop place

/-- The items in order of their keys, those of one key as they came; nothing if two keys that are
compared on the way have no order.  The first run is taken as it is, or backwards if it falls. -/
def sortBy? : List (Value × α) → Option (List (Value × α))
  | first :: second :: rest =>
      match second.1.less? first.1 with
      | none => none
      | some falls =>
          match runFrom? falls first.1 (second :: rest) with
          | none => none
          | some (run, others) =>
              let start := first :: run
              others.foldlM insertSorted? (if falls then start.reverse else start)
  | items => some items

end

/-- Whether a value equals zero. -/
def isZero : Value → Bool
  | .bool flag => !flag
  | .int number => number == 0
  | .float number => number == 0
  | _ => false

end GraphGateway.Value
