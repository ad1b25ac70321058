/-!
# Sets of characters as ranges

A set of code points is written as hexadecimal numbers that alternate between the length of a gap
and the length of a range, from code point zero upward.
-/

namespace TransactionRules

/-- Half open ranges of code points. -/
abbrev CharRanges := Array (Nat × Nat)

namespace CharRanges

def hexValue (c : Char) : Nat :=
  if c.isDigit then c.toNat - '0'.toNat else c.toNat - 'a'.toNat + 10

/-- The hexadecimal numbers of a text, separated by single blanks. -/
def numbers (text : String) : List Nat :=
  let step : List Nat × Nat → Char → List Nat × Nat := fun (done, n) c =>
    if c == ' ' then (n :: done, 0) else (done, 16 * n + hexValue c)
  let (done, n) := text.toList.foldl step ([], 0)
  (n :: done).reverse

def ofGaps : Nat → List Nat → List (Nat × Nat)
  | start, gap :: length :: rest =>
    (start + gap, start + gap + length) :: ofGaps (start + gap + length) rest
  | _, _ => []

def ofText (text : String) : CharRanges := (ofGaps 0 (numbers text)).toArray

def contains (ranges : CharRanges) (c : Char) : Bool :=
  ranges.any fun (low, high) => low ≤ c.toNat && c.toNat < high

end CharRanges

end TransactionRules
